import Mathlib
import FrameLink.Url
import FrameLink.Proofs.Url.Names
/-!
Where the URL of an endpoint goes. The port that is written behind an address is the one that is read,
unless the address ends the authority itself: then the URL goes where the address alone would go, whatever
port was asked for.
-/

namespace FrameLink.Url

/-! ## What is read as the authority -/

/-- A text without tabs, line ends and the slashes that open it. -/
def shown (rest : List Char) : List Char :=
  (rest.filter fun c => !isDropped c).dropWhile fun c => c = '/' || c = '\\'

def authorityText (rest : List Char) : List Char :=
  (shown (rest.rdropWhile fun c => c.toNat ≤ 0x20)).takeWhile fun c => !endsAuthority c

def authority (url : Url) : Authority := ⟨url.user, url.password, url.host, url.port⟩

theorem authority_ofText (rest : List Char) :
    (ofText rest).map authority = readAuthority (authorityText rest) := by
  change ((readAuthority (authorityText rest)).bind fun a => _).map authority = _
  cases readAuthority (authorityText rest) with
  | error fault => rfl
  | ok a => rfl

/-- No character of a class ends an authority when none of the four that do is in the class. -/
theorem endsAuthority_eq_false {p : Char → Bool} (none : ['/', '\\', '?', '#'].any p = false)
    {c : Char} (holds : p c = true) : endsAuthority c = false := by
  rw [Bool.eq_false_iff]
  intro ends
  simp only [endsAuthority, Bool.or_eq_true, decide_eq_true_eq, or_assoc] at ends
  exact List.any_eq_false.mp none c (by simpa using ends) holds

theorem shown_append (cs rest : List Char) : shown (cs ++ rest) =
    if (shown cs).isEmpty then shown rest else shown cs ++ rest.filter fun c => !isDropped c := by
  rw [shown, List.filter_append, List.dropWhile_append]
  rfl

theorem mem_of_mem_shown {c : Char} {cs : List Char} (member : c ∈ shown cs) : c ∈ cs :=
  List.mem_of_mem_filter ((List.dropWhile_suffix _).subset member)

theorem takeWhile_append_of_mem {α : Type} {p : α → Bool} {l : List α} {a : α} (member : a ∈ l)
    (fails : p a = false) (rest : List α) : (l ++ rest).takeWhile p = l.takeWhile p := by
  rw [List.takeWhile_append, if_neg]
  intro same
  have all := List.takeWhile_eq_self_iff.mp ((List.takeWhile_prefix p).eq_of_length same)
  rw [all a member] at fails
  cases fails

/-- Blanks at the end matter only to an authority that nothing ends. -/
theorem authorityText_of_mem {rest : List Char} {c : Char} (member : c ∈ shown rest)
    (ends : endsAuthority c = true) :
    authorityText rest = (shown rest).takeWhile fun c => !endsAuthority c := by
  let isBlank (c : Char) : Bool := c.toNat ≤ 0x20
  have whole : rest.rdropWhile isBlank ++ rest.rtakeWhile isBlank = rest :=
    List.rdropWhile_append_rtakeWhile
  have split := shown_append (rest.rdropWhile isBlank) (rest.rtakeWhile isBlank)
  have visible : c ∉ rest.rtakeWhile isBlank := by
    intro blank
    have low : isBlank c = true := List.mem_rtakeWhile_imp blank
    rw [endsAuthority_eq_false (p := isBlank) rfl low] at ends
    cases ends
  change (shown (rest.rdropWhile isBlank)).takeWhile _ = _
  rw [whole] at split
  rw [split] at member ⊢
  split at member
  next => exact absurd (mem_of_mem_shown member) visible
  next some =>
    have inFront := (List.mem_append.mp member).resolve_right
      fun blank => visible (List.mem_of_mem_filter blank)
    rw [if_neg some, takeWhile_append_of_mem inFront (by rw [ends]; rfl)]

theorem shown_append_cons (cs rest : List Char) {c : Char} (kept : isDropped c = false)
    (noSlash : c ≠ '/' ∧ c ≠ '\\') :
    shown (cs ++ c :: rest) = shown cs ++ c :: rest.filter fun c => !isDropped c := by
  have stays : shown (c :: rest) = c :: rest.filter fun c => !isDropped c := by
    simp [shown, kept, noSlash]
  rw [shown_append, stays]
  split
  next empty => rw [List.isEmpty_iff.mp empty, List.nil_append]
  next => rw [List.filter_cons, kept]; rfl

/-! ## The text of an endpoint -/

def endpointText (address : String) (port : UInt16) (path : String) : List Char :=
  '/' :: '/' :: ((hostText address).toList ++
    ':' :: (Nat.toDigits 10 port.toNat ++ (rooted path).toList))

theorem toList_endpoint (address : String) (port : UInt16) (path : String) :
    s!"//{hostText address}:{port}{rooted path}".toList = endpointText address port path := by
  have digits : (toString port).toList = Nat.toDigits 10 port.toNat := Nat.toList_repr
  change ("//" ++ hostText address ++ ":" ++ toString port ++ rooted path).toList = _
  simp only [String.toList_append, digits, List.append_assoc]
  rfl

theorem ofEndpoint_eq_ok {address path : String} {port : UInt16} {url : Url} :
    ofEndpoint address port path = .ok url ↔ ofText (endpointText address port path) = .ok url := by
  unfold ofEndpoint
  dsimp only
  rw [toList_endpoint]
  cases ofText (endpointText address port path) with
  | error fault => simp
  | ok url => simp

theorem isDigit_of_mem {n : Nat} {c : Char} (member : c ∈ Nat.toDigits 10 n) : c.isDigit = true :=
  Nat.isDigit_of_mem_toDigits (by decide) (by decide) member

theorem rooted_eq_cons (path : String) : ∃ cs, (rooted path).toList = '/' :: cs := by
  unfold rooted
  split
  next starts =>
    obtain ⟨cs, whole⟩ := String.startsWith_string_iff.mp starts
    exact ⟨cs, whole.symm⟩
  next => exact ⟨path.toList, by simp⟩

/-- Whether an address ends the authority itself, so that what is written behind it becomes part of a path,
a query or a fragment. -/
def CutsOff (address : String) : Prop :=
  ∃ c ∈ shown (hostText address).toList, endsAuthority c = true

instance (address : String) : Decidable (CutsOff address) :=
  decidable_of_iff ((shown (hostText address).toList).any endsAuthority = true) List.any_eq_true

theorem shown_slashes (cs : List Char) : shown ('/' :: '/' :: cs) = shown cs := rfl

theorem shown_endpointText (address : String) (port : UInt16) (path : String) :
    ∃ cs, shown (endpointText address port path) =
      shown (hostText address).toList ++ ':' :: (Nat.toDigits 10 port.toNat ++ '/' :: cs) := by
  obtain ⟨cs, path⟩ := rooted_eq_cons path
  have digits : ((Nat.toDigits 10 port.toNat).filter fun c => !isDropped c) =
      Nat.toDigits 10 port.toNat := by
    rw [List.filter_eq_self]
    intro c member
    rw [Bool.not_eq_true', Bool.eq_false_iff]
    intro dropped
    have blank : c = '\t' ∨ c = '\n' ∨ c = '\r' := by simpa [isDropped, or_assoc] using dropped
    rcases blank with rfl | rfl | rfl <;> exact absurd (isDigit_of_mem member) (by decide)
  refine ⟨cs.filter fun c => !isDropped c, ?_⟩
  rw [endpointText, shown_slashes, shown_append_cons _ _ rfl (by decide), List.filter_append, digits,
    path]
  rfl

def ownText (address : String) : List Char := '/' :: '/' :: (hostText address).toList

theorem authorityText_of_cutsOff {address : String} (cut : CutsOff address) (port : UInt16)
    (path : String) :
    authorityText (endpointText address port path) = authorityText (ownText address) := by
  obtain ⟨c, member, ends⟩ := cut
  obtain ⟨cs, shown_eq⟩ := shown_endpointText address port path
  have inText : c ∈ shown (endpointText address port path) := by
    rw [shown_eq]
    exact List.mem_append_left _ member
  have inOwn : c ∈ shown (ownText address) := member
  rw [authorityText_of_mem inText ends, authorityText_of_mem inOwn ends, shown_eq, ownText,
    shown_slashes]
  exact takeWhile_append_of_mem member (by rw [ends]; rfl) _

theorem authorityText_of_not_cutsOff {address : String} (whole : ¬CutsOff address) (port : UInt16)
    (path : String) : authorityText (endpointText address port path) =
      shown (hostText address).toList ++ ':' :: Nat.toDigits 10 port.toNat := by
  obtain ⟨cs, shown_eq⟩ := shown_endpointText address port path
  have slash : '/' ∈ shown (endpointText address port path) := by
    rw [shown_eq]
    simp
  have inside : ∀ c ∈ shown (hostText address).toList ++ ':' :: Nat.toDigits 10 port.toNat,
      (!endsAuthority c) = true := by
    intro c member
    rw [Bool.not_eq_true']
    rcases List.mem_append.mp member with named | behind
    · exact Bool.eq_false_iff.mpr fun ends => whole ⟨c, named, ends⟩
    · rcases List.mem_cons.mp behind with rfl | digit
      · rfl
      · exact endsAuthority_eq_false rfl (isDigit_of_mem digit)
  rw [authorityText_of_mem slash rfl, shown_eq, ← List.cons_append, ← List.append_assoc,
    List.takeWhile_append_of_pos inside]
  simp [endsAuthority]

/-! ## The port behind an address -/

theorem rtakeWhile_append {α : Type} {p : α → Bool} (front : List α) {l : List α}
    (all : ∀ a ∈ l, p a = true) : (front ++ l).rtakeWhile p = front.rtakeWhile p ++ l := by
  rw [List.rtakeWhile, List.reverse_append, List.takeWhile_append_of_pos]
  · rw [List.reverse_append, List.reverse_reverse]
    rfl
  · intro a member
    exact all a (List.mem_reverse.mp member)

theorem splitUser_append (front : List Char) {behind : List Char} (noSign : '@' ∉ behind) :
    ∃ middle, (splitUser (front ++ behind)).2 = middle ++ behind := by
  have all : ∀ c ∈ behind, decide (c ≠ '@') = true := by
    rintro c member
    rw [decide_eq_true_eq]
    rintro rfl
    exact noSign member
  unfold splitUser
  dsimp only
  split
  next => exact ⟨front, rfl⟩
  next => exact ⟨_, rtakeWhile_append front all⟩

theorem splitHost_append (inside : Bool) (cs : List Char) :
    (splitHost inside cs).1 ++ (splitHost inside cs).2 = cs := by
  induction cs generalizing inside with
  | nil => rfl
  | cons c cs ih =>
    rw [splitHost]
    split
    next => rfl
    next => exact congrArg (c :: ·) (ih _)

theorem splitHost_port (inside : Bool) (cs : List Char) :
    (splitHost inside cs).2 = [] ∨ ∃ digits, (splitHost inside cs).2 = ':' :: digits := by
  induction cs generalizing inside with
  | nil => exact .inl rfl
  | cons c cs ih =>
    rw [splitHost]
    split
    next colon =>
      rw [Bool.and_eq_true, decide_eq_true_eq] at colon
      exact .inr ⟨cs, by rw [colon.1]⟩
    next => exact ih _

theorem readHost_of_colon {cs : List Char} {host : String} (read : readHost cs = .ok host)
    (colon : ':' ∈ cs) : cs.getLast? = some ']' := by
  unfold readHost at read
  split at read
  next => cases read
  next rest =>
    split at read
    next closed =>
      rw [List.getLast?_cons, closed]
      rfl
    next => cases read
  next =>
    rw [domainOf?_eq_none inert_colon colon] at read
    cases read

theorem readPort_digits {digits : List Char} {port : Option UInt16}
    (read : readPort (':' :: digits) = .ok port) : ∀ c ∈ digits, c.isDigit = true := by
  unfold readPort at read
  rw [List.drop_one, List.tail_cons] at read
  dsimp only at read
  split at read
  next => cases read
  next all =>
    rw [Bool.not_eq_true, Bool.not_eq_false'] at all
    exact List.all_eq_true.mp all

theorem readPort_toDigits (port : UInt16) : ∃ read,
    readPort (':' :: Nat.toDigits 10 port.toNat) = .ok read ∧ read.getD defaultPort = port := by
  have all : (Nat.toDigits 10 port.toNat).all Char.isDigit = true :=
    List.all_eq_true.mpr fun c member => isDigit_of_mem member
  have some : (Nat.toDigits 10 port.toNat).isEmpty = false :=
    List.isEmpty_eq_false_iff.mpr Nat.toDigits_ne_nil
  have value : (Nat.toDigits 10 port.toNat).foldl (fun n c => 10 * n + (c.toNat - 48)) 0 =
      port.toNat := Nat.ofDigitChars_ten_toDigits
  have small := port.toNat_lt
  unfold readPort
  rw [List.drop_one, List.tail_cons]
  dsimp only
  rw [all, value, some, Bool.false_or, if_neg (by decide), if_neg (by omega)]
  split
  next default =>
    rw [decide_eq_true_eq, UInt16.toNat_inj] at default
    exact ⟨none, rfl, default.symm⟩
  next => exact ⟨_, rfl, UInt16.ofNat_toNat⟩

theorem readAuthority_eq_ok {cs : List Char} {a : Authority} (read : readAuthority cs = .ok a) :
    (∃ host, readHost (splitHost false (splitUser cs).2).1 = .ok host) ∧
      readPort (splitHost false (splitUser cs).2).2 = .ok a.port := by
  change ((readHost (splitHost false (splitUser cs).2).1).bind fun host =>
    (readPort (splitHost false (splitUser cs).2).2).bind fun port => _) = _ at read
  cases host : readHost (splitHost false (splitUser cs).2).1 with
  | error fault =>
    rw [host] at read
    cases read
  | ok host =>
    cases port : readPort (splitHost false (splitUser cs).2).2 with
    | error fault =>
      rw [host, port] at read
      cases read
    | ok port =>
      rw [host, port] at read
      cases read
      exact ⟨⟨_, rfl⟩, rfl⟩

theorem not_mem_port {c : Char} (noColon : c ≠ ':') (noDigit : c.isDigit = false) (n : Nat) :
    c ∉ ':' :: Nat.toDigits 10 n := by
  intro member
  rw [isDigit_of_mem (List.mem_of_ne_of_mem noColon member)] at noDigit
  cases noDigit

theorem rtakeWhile_isDigit (front : List Char) {digits : List Char}
    (all : ∀ c ∈ digits, c.isDigit = true) :
    (front ++ ':' :: digits).rtakeWhile Char.isDigit = digits := by
  rw [List.append_cons, rtakeWhile_append _ all, List.rtakeWhile_concat_neg _ _ _ (by decide)]
  rfl

/-- If no colon outside brackets ends the host, the host has the last colon of all, and then it is none. -/
theorem readAuthority_port {name : List Char} {port : UInt16} {a : Authority}
    (read : readAuthority (name ++ ':' :: Nat.toDigits 10 port.toNat) = .ok a) :
    a.port.getD defaultPort = port := by
  obtain ⟨⟨host, readName⟩, readDigits⟩ := readAuthority_eq_ok read
  obtain ⟨middle, behind⟩ := splitUser_append name (not_mem_port (by decide) rfl port.toNat)
  rw [behind] at readName readDigits
  have whole := splitHost_append false (middle ++ ':' :: Nat.toDigits 10 port.toNat)
  rcases splitHost_port false (middle ++ ':' :: Nat.toDigits 10 port.toNat) with none | ⟨tail, some⟩
  · rw [none, List.append_nil] at whole
    rw [whole] at readName
    have closed := readHost_of_colon readName (by simp)
    rw [List.getLast?_append_cons] at closed
    exact absurd (List.mem_of_getLast? closed) (not_mem_port (by decide) rfl port.toNat)
  · rw [some] at readDigits whole
    have same : tail = Nat.toDigits 10 port.toNat := by
      rw [← rtakeWhile_isDigit _ (readPort_digits readDigits), whole]
      exact rtakeWhile_isDigit middle fun c => isDigit_of_mem
    rw [same] at readDigits
    obtain ⟨given, readBack, value⟩ := readPort_toDigits port
    cases readBack.symm.trans readDigits
    exact value

/-! ## The port of an endpoint -/

theorem text_scheme (url : Url) : "ws://".toList <+: url.text.toList := by
  simp only [text, String.toList_append, List.append_assoc]
  exact List.prefix_append _ _

theorem ofText_of_readAuthority {rest : List Char} {a : Authority}
    (read : readAuthority (authorityText rest) = .ok a) :
    ∃ url, ofText rest = .ok url ∧ url.authority = a := by
  rw [← authority_ofText] at read
  cases made : ofText rest with
  | error fault =>
    rw [made] at read
    cases read
  | ok url =>
    rw [made] at read
    cases read
    exact ⟨url, rfl, rfl⟩

theorem readAuthority_of_ofText {rest : List Char} {url : Url} (made : ofText rest = .ok url) :
    readAuthority (authorityText rest) = .ok url.authority := by
  rw [← authority_ofText, made]
  rfl

theorem effectivePort_of_not_cutsOff {address path : String} {port : UInt16} {url : Url}
    (whole : ¬CutsOff address) (made : ofEndpoint address port path = .ok url) :
    url.effectivePort = port := by
  have read := readAuthority_of_ofText (ofEndpoint_eq_ok.mp made)
  rw [authorityText_of_not_cutsOff whole] at read
  exact readAuthority_port read

/-- An address that ends the authority leads to one place, with any port and any path. -/
theorem authority_of_cutsOff {address path : String} {port : UInt16} {url : Url}
    (cut : CutsOff address) (made : ofEndpoint address port path = .ok url) :
    readAuthority (authorityText (ownText address)) = .ok url.authority := by
  have read := readAuthority_of_ofText (ofEndpoint_eq_ok.mp made)
  rwa [authorityText_of_cutsOff cut] at read

/-- The port of the URL is the given one exactly if the address does not end the authority, or names that
port itself before it does. An address that ends the authority is taken with any port and any path, and
the URL goes to the same place with all of them. -/
theorem endpoint_port_iff {address path : String} {port : UInt16} {url : Url}
    (made : ofEndpoint address port path = .ok url) :
    "ws://".toList <+: url.text.toList ∧
    (url.effectivePort = port ↔ (CutsOff address →
      ∃ own, ofText (ownText address) = .ok own ∧ own.effectivePort = port)) ∧
    (CutsOff address → ∀ (other : UInt16) (elsewhere : String),
      ∃ same, ofEndpoint address other elsewhere = .ok same ∧ same.authority = url.authority) := by
  refine ⟨text_scheme url, ⟨fun given cut => ?_, fun own => ?_⟩, fun cut other elsewhere => ?_⟩
  · obtain ⟨alone, read, same⟩ := ofText_of_readAuthority (authority_of_cutsOff cut made)
    have ports := congrArg Authority.port same
    exact ⟨alone, read, (congrArg (·.getD defaultPort) ports).trans given⟩
  · by_cases cut : CutsOff address
    · obtain ⟨alone, read, given⟩ := own cut
      have same := authority_of_cutsOff cut made
      rw [readAuthority_of_ofText read] at same
      have ports := congrArg Authority.port (Except.ok.inj same)
      exact (congrArg (·.getD defaultPort) ports).symm.trans given
    · exact effectivePort_of_not_cutsOff cut made
  · have read := authority_of_cutsOff cut made
    rw [← authorityText_of_cutsOff cut other elsewhere] at read
    obtain ⟨same, reads, equal⟩ := ofText_of_readAuthority read
    exact ⟨same, ofEndpoint_eq_ok.mpr reads, equal⟩

theorem port_kept_behind_brackets :
    ofEndpoint "a:b@[1:2::3]" 8167 "/sc2api" =
      .ok ⟨"a", some "b", "[1:2::3]", some 8167, "/sc2api", none, none⟩ ∧ ¬CutsOff "a:b@[1:2::3]" ∧
    effectivePort ⟨"a", some "b", "[1:2::3]", some 8167, "/sc2api", none, none⟩ = 8167 := by
  have made : ofEndpoint "a:b@[1:2::3]" 8167 "/sc2api" =
      .ok ⟨"a", some "b", "[1:2::3]", some 8167, "/sc2api", none, none⟩ := by decide +kernel
  have whole : ¬CutsOff "a:b@[1:2::3]" := by decide +kernel
  exact ⟨made, whole, (endpoint_port_iff made).2.1.mpr fun cut => absurd cut whole⟩

/-- The slash ends the authority, and the port is read as a part of the path. -/
theorem given_port_lost : ¬∀ (address : String) (port : UInt16) (path : String) (url : Url),
    ofEndpoint address port path = .ok url → url.effectivePort = port := by
  intro kept
  have made : ofEndpoint "127.0.0.1/" 8167 "/sc2api" =
      .ok ⟨"", none, "127.0.0.1", none, "/:8167/sc2api", none, none⟩ := by decide +kernel
  exact absurd (kept _ _ _ _ made) (by decide)

end FrameLink.Url
