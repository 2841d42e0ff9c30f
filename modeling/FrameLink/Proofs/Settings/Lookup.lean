import Mathlib
import FrameLink.Settings.Lookup
import FrameLink.Proofs.Settings.Spelled
/-!
Settings that are read one after the other, each onto what the earlier ones made. Each key either stands for
a value, that of its text or the usual one where it is not set, or ends the reading with an error that
names it; so what is made, and the error if there is one, can be told from the keys alone.
-/

namespace FrameLink.Settings

/-! ## Keys -/

/-- What a key stands for: what its text spells without the blanks around it, if it spells anything, or the
usual value where the key is not set. -/
def meant? {α : Type} (read : String → Option α) (lookup : Lookup) (key : String) (usual : α) :
    Option α :=
  (lookup key).elim (some usual) fun raw => read (Text.trim raw)

def Means {α : Type} [Spelled α] (lookup : Lookup) (key : String) (usual a : α) : Prop :=
  (lookup key).elim (a = usual) fun raw => Spells (Text.trim raw) a

theorem means_iff {α : Type} [Spelled α] {read : String → Option α} (reads : Reads read)
    {lookup : Lookup} {key : String} {usual a : α} :
    Means lookup key usual a ↔ meant? read lookup key usual = some a := by
  unfold Means meant?
  cases lookup key with
  | none => simp [eq_comm]
  | some raw => exact (reads (Text.trim raw) a).symm

/-- A key with the texts that fit its type. -/
structure TypedKey where
  name : String
  Fits : String → Prop

def TypedKey.of (α : Type) [Spelled α] (name : String) : TypedKey :=
  ⟨name, fun text => ∃ a : α, Spells text a⟩

/-- Where the key is set, its text fits but for the blanks around it. -/
def TypedKey.Sound (key : TypedKey) (lookup : Lookup) : Prop :=
  ∀ raw, lookup key.name = some raw → key.Fits (Text.trim raw)

/-- An error that names a key and the text it is set to, as it stands, which does not fit. -/
def TypedKey.Refused (key : TypedKey) (lookup : Lookup) (error : SettingError) : Prop :=
  error.field = key.name ∧ lookup key.name = some error.value ∧ ¬key.Fits (Text.trim error.value)

/-- The first of the keys that is not sound is refused. -/
def FirstRefused (keys : List TypedKey) (lookup : Lookup) (error : SettingError) : Prop :=
  ∃ before key after, keys = before ++ key :: after ∧
    (∀ earlier ∈ before, earlier.Sound lookup) ∧ key.Refused lookup error

section

variable {α σ : Type} {lookup : Lookup} {error : SettingError} {key : TypedKey} {keys : List TypedKey}

theorem TypedKey.not_sound_of_refused (refused : key.Refused lookup error) : ¬key.Sound lookup :=
  fun sound => refused.2.2 (sound _ refused.2.1)

theorem TypedKey.refused_of_not_sound (unsound : ¬key.Sound lookup) :
    ∃ error, key.Refused lookup error := by
  simp only [Sound, not_forall] at unsound
  obtain ⟨raw, present, unfit⟩ := unsound
  exact ⟨⟨key.name, raw⟩, rfl, present, unfit⟩

theorem not_firstRefused_nil : ¬FirstRefused [] lookup error := by
  rintro ⟨before, key, after, none, -⟩
  simp at none

theorem firstRefused_cons : FirstRefused (key :: keys) lookup error ↔
    key.Refused lookup error ∨ (key.Sound lookup ∧ FirstRefused keys lookup error) := by
  constructor
  · rintro ⟨before, other, after, parts, sound, refused⟩
    cases before with
    | nil =>
      cases parts
      exact .inl refused
    | cons first before =>
      cases parts
      obtain ⟨sound, rest⟩ := List.forall_mem_cons.mp sound
      exact .inr ⟨sound, before, other, after, rfl, rest, refused⟩
  · rintro (refused | ⟨sound, before, other, after, rfl, rest, refused⟩)
    · exact ⟨[], key, keys, rfl, by simp, refused⟩
    · exact ⟨key :: before, other, after, rfl, List.forall_mem_cons.mpr ⟨sound, rest⟩, refused⟩

theorem firstRefused_singleton : FirstRefused [key] lookup error ↔ key.Refused lookup error := by
  simp [firstRefused_cons, not_firstRefused_nil]

theorem exists_firstRefused :
    (∃ error, FirstRefused keys lookup error) ↔ ¬∀ key ∈ keys, key.Sound lookup := by
  induction keys with
  | nil => simp [not_firstRefused_nil]
  | cons key keys ih =>
    simp only [firstRefused_cons, exists_or, exists_and_left, ih, List.forall_mem_cons]
    constructor
    · rintro (⟨error, refused⟩ | ⟨-, unsound⟩)
      · exact fun all => key.not_sound_of_refused refused all.1
      · exact fun all => unsound all.2
    · intro some
      by_cases sound : key.Sound lookup
      · exact .inr ⟨sound, fun all => some ⟨sound, all⟩⟩
      · exact .inl (key.refused_of_not_sound sound)

end

/-! ## Readings -/

theorem ok_of_bind {α β ε : Type} {first : Except ε α} {next : α → Except ε β} {b : β}
    (made : (first >>= next) = .ok b) : ∃ a, first = .ok a ∧ next a = .ok b := by
  cases first with
  | error fault => cases made
  | ok a => exact ⟨a, rfl, made⟩

section

variable {α σ : Type} {read : String → Option α} {lookup : Lookup} {name : String}
  {put : α → σ → σ} {settings made : σ} {error : SettingError} {next : σ → Except SettingError σ}

theorem override_eq_ok : override read lookup name put settings = .ok made ↔
    (lookup name = none ∧ made = settings) ∨
    (∃ raw a, lookup name = some raw ∧ read (Text.trim raw) = some a ∧ made = put a settings) := by
  unfold override value?
  cases present : lookup name with
  | none => simp [eq_comm]
  | some raw =>
    cases spelled : read (Text.trim raw) with
    | none => simp [spelled]
    | some a => simp [spelled, eq_comm]

variable [Spelled α]

theorem override_eq_error (reads : Reads read) :
    override read lookup name put settings = .error error ↔
      (TypedKey.of α name).Refused lookup error := by
  obtain ⟨field, value⟩ := error
  unfold override value? TypedKey.Refused TypedKey.of
  cases present : lookup name with
  | none => simp
  | some raw =>
    cases spelled : read (Text.trim raw) with
    | none =>
      have unfit : ∀ a : α, ¬Spells (Text.trim raw) a := fun a spells => by
        rw [(reads _ a).mpr spells] at spelled
        cases spelled
      simp only [spelled, Except.error.injEq, SettingError.mk.injEq, Option.some_inj, not_exists]
      constructor
      · rintro ⟨rfl, rfl⟩
        exact ⟨rfl, rfl, unfit⟩
      · rintro ⟨rfl, rfl, -⟩
        exact ⟨rfl, rfl⟩
    | some a =>
      simp only [spelled, reduceCtorEq, Option.some_inj, false_iff]
      rintro ⟨-, rfl, unfit⟩
      exact unfit ⟨a, (reads _ a).mp spelled⟩

theorem override_eq_ok_of_usual (usual : α) (reads : Reads read)
    (unset : put usual settings = settings) :
    override read lookup name put settings = .ok made ↔
      ∃ a, Means lookup name usual a ∧ made = put a settings := by
  rw [override_eq_ok]
  unfold Means
  cases present : lookup name with
  | none => simp [unset]
  | some raw =>
    simp only [Option.elim_some, reduceCtorEq, false_and, false_or, Option.some_inj,
      exists_and_left, exists_eq_left']
    exact exists_congr fun a => and_congr_left fun _ => reads (Text.trim raw) a

/-- The reading of one key and then of others fails where that key is refused, or where it is sound and the
first of the others is refused. -/
theorem bind_eq_error (reads : Reads read) {keys : List TypedKey}
    (later : ∀ s, next s = .error error ↔ FirstRefused keys lookup error) :
    (override read lookup name put settings >>= next) = .error error ↔
      FirstRefused (.of α name :: keys) lookup error := by
  rw [firstRefused_cons, ← override_eq_error reads]
  cases taken : override read lookup name put settings with
  | error other =>
    have unsound := TypedKey.not_sound_of_refused ((override_eq_error reads).mp taken)
    change Except.error other = .error error ↔ _
    simp [unsound]
  | ok after =>
    have sound : (TypedKey.of α name).Sound lookup := by
      by_contra unsound
      obtain ⟨fault, refused⟩ := TypedKey.refused_of_not_sound unsound
      cases taken.symm.trans ((override_eq_error reads).mpr refused)
    change next after = .error error ↔ _
    simp [sound, later]

/-- The reading of one key and then of others makes what the others make of the settings with what that key
stands for. -/
theorem bind_eq_ok (usual : α) (reads : Reads read) (unset : put usual settings = settings) :
    (override read lookup name put settings >>= next) = .ok made ↔
      ∃ a, Means lookup name usual a ∧ next (put a settings) = .ok made := by
  constructor
  · intro whole
    obtain ⟨after, taken, rest⟩ := ok_of_bind whole
    obtain ⟨a, means, rfl⟩ := (override_eq_ok_of_usual usual reads unset).mp taken
    exact ⟨a, means, rest⟩
  · rintro ⟨a, means, rest⟩
    rw [(override_eq_ok_of_usual usual reads unset).mpr ⟨a, means, rfl⟩]
    exact rest

end

end FrameLink.Settings
