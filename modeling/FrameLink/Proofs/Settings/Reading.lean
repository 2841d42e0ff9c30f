import Mathlib
import FrameLink.Settings.Connect
import FrameLink.Settings.Serve
import FrameLink.Settings.Terminate
import FrameLink.Proofs.Settings.Lookup
/-!
What each record of settings is made of. Every field has a key of its own, or none; the keys of the typed
ones are read in a fixed order, and a path is taken as it stands.
-/

namespace FrameLink

open Settings

/-! ## The keys -/

def ConnectSettings.typedKeys : List TypedKey :=
  [.of UInt64 "ENGINE_LINK_POLL_INTERVAL_MS",
    .of UInt32 "ENGINE_LINK_MAX_ATTEMPTS",
    .of Bool "ENGINE_LINK_AUTO_RECONNECT",
    .of UInt64 "ENGINE_LINK_MAX_FRAME_BYTES",
    .of TimeoutPolicy "ENGINE_LINK_TIMEOUT_POLICY"]

def ServeSettings.typedKeys : List TypedKey :=
  [.of Inet.Address "ENGINE_LINK_BIND_ADDRESS",
    .of UInt16 "ENGINE_LINK_PORT",
    .of UInt64 "ENGINE_LINK_IDLE_TIMEOUT_MS",
    .of UInt64 "ENGINE_LINK_MAX_FRAME_BYTES",
    .of Bool "ENGINE_LINK_PURGE_ON_DISCONNECT"]

def TerminateSettings.typedKeys : List TypedKey :=
  [.of UInt64 "ENGINE_LINK_GRACE_PERIOD_MS",
    .of UInt64 "ENGINE_LINK_TERMINATE_POLL_MS"]

/-! ## The fields -/

structure ConnectSettings.Filled (lookup : Lookup) (settings : ConnectSettings) : Prop where
  path : settings.path = (lookup "ENGINE_LINK_PATH").getD "/sc2api"
  pollInterval : ∃ ms : UInt64, Means lookup "ENGINE_LINK_POLL_INTERVAL_MS" 1000 ms ∧
    settings.pollInterval = .ofMillis ms
  maxAttempts : Means lookup "ENGINE_LINK_MAX_ATTEMPTS" 30 settings.maxAttempts
  autoReconnect : Means lookup "ENGINE_LINK_AUTO_RECONNECT" true settings.autoReconnect
  /-- there is no key for it -/
  reconnectBackoff : settings.reconnectBackoff = .ofMillis 1000
  maxFrameBytes : Means lookup "ENGINE_LINK_MAX_FRAME_BYTES" 16777216 settings.maxFrameBytes
  timeoutPolicy : Means lookup "ENGINE_LINK_TIMEOUT_POLICY" .disconnect settings.timeoutPolicy

structure ServeSettings.Filled (lookup : Lookup) (settings : ServeSettings) : Prop where
  bindAddress : Means lookup "ENGINE_LINK_BIND_ADDRESS" .loopback settings.bindAddress
  port : Means lookup "ENGINE_LINK_PORT" 8167 settings.port
  path : settings.path = (lookup "ENGINE_LINK_PATH").getD "/sc2api"
  /-- zero is no timeout -/
  idleTimeout : ∃ ms : UInt64, Means lookup "ENGINE_LINK_IDLE_TIMEOUT_MS" 0 ms ∧
    settings.idleTimeout = if ms = 0 then none else some (.ofMillis ms)
  maxFrameBytes : Means lookup "ENGINE_LINK_MAX_FRAME_BYTES" 16777216 settings.maxFrameBytes
  purgeOnDisconnect :
    Means lookup "ENGINE_LINK_PURGE_ON_DISCONNECT" true settings.purgeOnDisconnect

structure TerminateSettings.Filled (lookup : Lookup) (settings : TerminateSettings) : Prop where
  gracePeriod : ∃ ms : UInt64, Means lookup "ENGINE_LINK_GRACE_PERIOD_MS" 5000 ms ∧
    settings.gracePeriod = .ofMillis ms
  /-- a millisecond at least -/
  pollInterval : ∃ ms : UInt64, Means lookup "ENGINE_LINK_TERMINATE_POLL_MS" 100 ms ∧
    settings.pollInterval = .ofMillis (max ms 1)

/-! ## Reading them -/

namespace Settings

/-- How settings are read from texts. -/
structure ReadBy {σ : Type} (typed : List TypedKey) (verbatim : List String)
    (Filled : Lookup → σ → Prop) (ofLookup : Lookup → Except SettingError σ) : Prop where
  /-- no other key matters -/
  own : ∀ lookup other : Lookup,
    (∀ name ∈ verbatim ++ typed.map (·.name), lookup name = other name) →
      ofLookup lookup = ofLookup other
  succeeds : ∀ lookup, (∃ settings, ofLookup lookup = .ok settings) ↔
    ∀ key ∈ typed, key.Sound lookup
  fills : ∀ lookup settings, ofLookup lookup = .ok settings ↔ Filled lookup settings
  refuses : ∀ lookup error, ofLookup lookup = .error error ↔ FirstRefused typed lookup error

theorem override_congr {α σ : Type} {read : String → Option α} {lookup other : Lookup} {name : String}
    (same : lookup name = other name) (put : α → σ → σ) (settings : σ) :
    override read lookup name put settings = override read other name put settings := by
  unfold override value?
  rw [same]

theorem succeeds_of_refuses {σ : Type} {keys : List TypedKey} {lookup : Lookup}
    {result : Except SettingError σ}
    (refuses : ∀ error, result = .error error ↔ FirstRefused keys lookup error) :
    (∃ settings, result = .ok settings) ↔ ∀ key ∈ keys, key.Sound lookup := by
  rw [← not_iff_not, ← exists_firstRefused]
  cases result with
  | error fault =>
    have refused := (refuses fault).mp rfl
    simpa using ⟨fault, refused⟩
  | ok settings =>
    have none : ∀ error, ¬FirstRefused keys lookup error := fun error refused => by
      cases (refuses error).mpr refused
    simpa using none

end Settings

namespace ConnectSettings

theorem ofLookup_eq_ok {lookup : Lookup} {settings : ConnectSettings} :
    ofLookup lookup = .ok settings ↔ Filled lookup settings := by
  unfold ofLookup
  extract_lets start
  have path : start = { path := (lookup "ENGINE_LINK_PATH").getD "/sc2api" } := by
    simp only [start]
    cases lookup "ENGINE_LINK_PATH" <;> rfl
  rw [path]
  constructor
  · intro made
    obtain ⟨ms, interval, made⟩ := (bind_eq_ok 1000 reads_millis (by rfl)).mp made
    obtain ⟨count, attempts, made⟩ := (bind_eq_ok 30 reads_count (by rfl)).mp made
    obtain ⟨on, reconnect, made⟩ := (bind_eq_ok true reads_switch (by rfl)).mp made
    obtain ⟨size, bytes, made⟩ := (bind_eq_ok 16777216 reads_size (by rfl)).mp made
    obtain ⟨policy, means, rfl⟩ :=
      (override_eq_ok_of_usual .disconnect reads_policy (by rfl)).mp made
    exact {
      path := rfl
      pollInterval := ⟨ms, interval, rfl⟩
      maxAttempts := attempts
      autoReconnect := reconnect
      reconnectBackoff := rfl
      maxFrameBytes := bytes
      timeoutPolicy := means }
  · intro filled
    obtain ⟨ms, interval, set⟩ := filled.pollInterval
    refine (bind_eq_ok 1000 reads_millis (by rfl)).mpr ⟨ms, interval, ?_⟩
    refine (bind_eq_ok 30 reads_count (by rfl)).mpr ⟨_, filled.maxAttempts, ?_⟩
    refine (bind_eq_ok true reads_switch (by rfl)).mpr ⟨_, filled.autoReconnect, ?_⟩
    refine (bind_eq_ok 16777216 reads_size (by rfl)).mpr ⟨_, filled.maxFrameBytes, ?_⟩
    refine (override_eq_ok_of_usual .disconnect reads_policy (by rfl)).mpr
      ⟨_, filled.timeoutPolicy, ?_⟩
    simp only [← set, ← filled.path, ← filled.reconnectBackoff]

theorem ofLookup_eq_error {lookup : Lookup} {error : SettingError} :
    ofLookup lookup = .error error ↔ FirstRefused typedKeys lookup error := by
  unfold ofLookup
  refine bind_eq_error reads_millis fun s => ?_
  refine bind_eq_error reads_count fun s => ?_
  refine bind_eq_error reads_switch fun s => ?_
  refine bind_eq_error reads_size fun s => ?_
  rw [firstRefused_singleton]
  exact override_eq_error reads_policy

theorem ofLookup_congr {lookup other : Lookup}
    (same : ∀ name ∈ ["ENGINE_LINK_PATH"] ++ typedKeys.map (·.name), lookup name = other name) :
    ofLookup lookup = ofLookup other := by
  simp only [typedKeys, TypedKey.of, List.map_cons, List.map_nil, List.cons_append, List.nil_append,
    List.forall_mem_cons] at same
  obtain ⟨path, interval, attempts, reconnect, bytes, policy, -⟩ := same
  simp only [ofLookup, path, override_congr interval, override_congr attempts,
    override_congr reconnect, override_congr bytes, override_congr policy]

theorem readBy : ReadBy typedKeys ["ENGINE_LINK_PATH"] Filled ofLookup where
  own _ _ := ofLookup_congr
  succeeds _ := succeeds_of_refuses fun _ => ofLookup_eq_error
  fills _ _ := ofLookup_eq_ok
  refuses _ _ := ofLookup_eq_error

end ConnectSettings

namespace ServeSettings

theorem ofLookup_eq_ok {lookup : Lookup} {settings : ServeSettings} :
    ofLookup lookup = .ok settings ↔ Filled lookup settings := by
  unfold ofLookup
  constructor
  · intro made
    obtain ⟨address, bind, made⟩ := (bind_eq_ok .loopback reads_address (by rfl)).mp made
    obtain ⟨port, listen, made⟩ := (bind_eq_ok 8167 reads_port (by rfl)).mp made
    extract_lets withPath at made
    have path : withPath =
        { bindAddress := address, port, path := (lookup "ENGINE_LINK_PATH").getD "/sc2api" } := by
      simp only [withPath]
      cases lookup "ENGINE_LINK_PATH" <;> rfl
    rw [path] at made
    obtain ⟨ms, idle, made⟩ := (bind_eq_ok 0 reads_millis (by rfl)).mp made
    obtain ⟨size, bytes, made⟩ := (bind_eq_ok 16777216 reads_size (by rfl)).mp made
    obtain ⟨on, purge, rfl⟩ := (override_eq_ok_of_usual true reads_switch (by rfl)).mp made
    exact {
      bindAddress := bind
      port := listen
      path := rfl
      idleTimeout := ⟨ms, idle, rfl⟩
      maxFrameBytes := bytes
      purgeOnDisconnect := purge }
  · intro filled
    obtain ⟨ms, idle, set⟩ := filled.idleTimeout
    refine (bind_eq_ok .loopback reads_address (by rfl)).mpr ⟨_, filled.bindAddress, ?_⟩
    refine (bind_eq_ok 8167 reads_port (by rfl)).mpr ⟨_, filled.port, ?_⟩
    extract_lets withPath
    have path : withPath = {
        bindAddress := settings.bindAddress
        port := settings.port
        path := (lookup "ENGINE_LINK_PATH").getD "/sc2api" } := by
      simp only [withPath]
      cases lookup "ENGINE_LINK_PATH" <;> rfl
    rw [path]
    refine (bind_eq_ok 0 reads_millis (by rfl)).mpr ⟨ms, idle, ?_⟩
    refine (bind_eq_ok 16777216 reads_size (by rfl)).mpr ⟨_, filled.maxFrameBytes, ?_⟩
    refine (override_eq_ok_of_usual true reads_switch (by rfl)).mpr
      ⟨_, filled.purgeOnDisconnect, ?_⟩
    simp only [← set, ← filled.path]

theorem ofLookup_eq_error {lookup : Lookup} {error : SettingError} :
    ofLookup lookup = .error error ↔ FirstRefused typedKeys lookup error := by
  unfold ofLookup
  refine bind_eq_error reads_address fun s => ?_
  refine bind_eq_error reads_port fun s => ?_
  refine bind_eq_error reads_millis fun s => ?_
  refine bind_eq_error reads_size fun s => ?_
  rw [firstRefused_singleton]
  exact override_eq_error reads_switch

theorem ofLookup_congr {lookup other : Lookup}
    (same : ∀ name ∈ ["ENGINE_LINK_PATH"] ++ typedKeys.map (·.name), lookup name = other name) :
    ofLookup lookup = ofLookup other := by
  simp only [typedKeys, TypedKey.of, List.map_cons, List.map_nil, List.cons_append, List.nil_append,
    List.forall_mem_cons] at same
  obtain ⟨path, bind, port, idle, bytes, purge, -⟩ := same
  simp only [ofLookup, path, override_congr bind, override_congr port, override_congr idle,
    override_congr bytes, override_congr purge]

theorem readBy : ReadBy typedKeys ["ENGINE_LINK_PATH"] Filled ofLookup where
  own _ _ := ofLookup_congr
  succeeds _ := succeeds_of_refuses fun _ => ofLookup_eq_error
  fills _ _ := ofLookup_eq_ok
  refuses _ _ := ofLookup_eq_error

end ServeSettings

namespace TerminateSettings

theorem ofLookup_eq_ok {lookup : Lookup} {settings : TerminateSettings} :
    ofLookup lookup = .ok settings ↔ Filled lookup settings := by
  unfold ofLookup
  constructor
  · intro made
    obtain ⟨grace, patience, made⟩ := (bind_eq_ok 5000 reads_millis (by rfl)).mp made
    obtain ⟨poll, pause, rfl⟩ := (override_eq_ok_of_usual 100 reads_millis (by rfl)).mp made
    exact {
      gracePeriod := ⟨grace, patience, rfl⟩
      pollInterval := ⟨poll, pause, rfl⟩ }
  · intro filled
    obtain ⟨grace, patience, setGrace⟩ := filled.gracePeriod
    obtain ⟨poll, pause, setPoll⟩ := filled.pollInterval
    refine (bind_eq_ok 5000 reads_millis (by rfl)).mpr ⟨grace, patience, ?_⟩
    refine (override_eq_ok_of_usual 100 reads_millis (by rfl)).mpr ⟨poll, pause, ?_⟩
    simp only [← setGrace, ← setPoll]

theorem ofLookup_eq_error {lookup : Lookup} {error : SettingError} :
    ofLookup lookup = .error error ↔ FirstRefused typedKeys lookup error := by
  unfold ofLookup
  refine bind_eq_error reads_millis fun s => ?_
  rw [firstRefused_singleton]
  exact override_eq_error reads_millis

theorem ofLookup_congr {lookup other : Lookup}
    (same : ∀ name ∈ [] ++ typedKeys.map (·.name), lookup name = other name) :
    ofLookup lookup = ofLookup other := by
  simp only [typedKeys, TypedKey.of, List.map_cons, List.map_nil, List.nil_append,
    List.forall_mem_cons] at same
  obtain ⟨grace, poll, -⟩ := same
  simp only [ofLookup, override_congr grace, override_congr poll]

theorem readBy : ReadBy typedKeys [] Filled ofLookup where
  own _ _ := ofLookup_congr
  succeeds _ := succeeds_of_refuses fun _ => ofLookup_eq_error
  fills _ _ := ofLookup_eq_ok
  refuses _ _ := ofLookup_eq_error

end TerminateSettings

/-- Each record of settings is read from its own keys alone. It is made where every typed key that is set
has, but for blanks around it, a text of its type, and then each field is what its key stands for.
Otherwise the first key that has none, in the order of reading, is reported with its text as it stands. -/
theorem Settings.read_by_own_keys :
    ReadBy ConnectSettings.typedKeys ["ENGINE_LINK_PATH"] ConnectSettings.Filled
      ConnectSettings.ofLookup ∧
    ReadBy ServeSettings.typedKeys ["ENGINE_LINK_PATH"] ServeSettings.Filled
      ServeSettings.ofLookup ∧
    ReadBy TerminateSettings.typedKeys [] TerminateSettings.Filled TerminateSettings.ofLookup :=
  ⟨ConnectSettings.readBy, ServeSettings.readBy, TerminateSettings.readBy⟩

/-- Of two keys that are refused the one that is read first is reported. -/
example : ConnectSettings.ofLookup (Lookup.ofList
    [("ENGINE_LINK_TIMEOUT_POLICY", "never"), ("ENGINE_LINK_MAX_ATTEMPTS", " 4294967296 "),
      ("ENGINE_LINK_POLL_INTERVAL_MS", " +0250\t")]) =
    .error ⟨"ENGINE_LINK_MAX_ATTEMPTS", " 4294967296 "⟩ := by decide +kernel

end FrameLink
