import Mathlib
import FrameLink.Inet.Address
import FrameLink.Proofs.Text.Decimal
/-!
The texts of internet addresses, as a grammar. An address of version 4 is four numbers below 256 in their
usual spelling, with points between them. An address of version 6 is eight groups with colons between them;
the last two may stand as four such numbers, and a gap of two colons stands for one group of zeros at
least. The reader takes exactly these texts, each for its address.
-/

namespace FrameLink.Inet.Address

/-! ## Numbers -/

/-- A text that is over, or goes on with none of certain characters. -/
def Ends (p : Char → Bool) (rest : List Char) : Prop := ∀ c ∈ rest.head?, p c = false

theorem ends_nil (p : Char → Bool) : Ends p [] := by
  intro c member
  cases member

theorem ends_cons {p : Char → Bool} {c : Char} (other : p c = false) (cs : List Char) :
    Ends p (c :: cs) := by
  intro first same
  cases same
  exact other

theorem takeWhile_append {p : Char → Bool} {front rest : List Char}
    (all : ∀ c ∈ front, p c = true) (ends : Ends p rest) : (front ++ rest).takeWhile p = front := by
  rw [List.takeWhile_append_of_pos all]
  cases rest with
  | nil => simp
  | cons c rest =>
    have other : ¬p c = true := by simp [ends c rfl]
    rw [List.takeWhile_cons_of_neg other, List.append_nil]

theorem ends_dropWhile (p : Char → Bool) (cs : List Char) : Ends p (cs.dropWhile p) := by
  intro c first
  have stopped := List.head?_dropWhile_not p cs
  rw [Option.mem_def.mp first] at stopped
  exact stopped

def valueOf (digit? : Char → Option Nat) (base : Nat) (digits : List Char) : Nat :=
  Nat.ofDigits base (digits.map fun c => (digit? c).getD 0).reverse

theorem readNumber_eq_some {digit? : Char → Option Nat} {base most n : Nat} {cs rest : List Char} :
    readNumber digit? base most cs = some (n, rest) ↔ ∃ digits, cs = digits ++ rest ∧
      digits ≠ [] ∧ digits.length ≤ most ∧ (∀ c ∈ digits, (digit? c).isSome = true) ∧
      Ends (fun c => (digit? c).isSome) rest ∧ valueOf digit? base digits = n := by
  have value (digits : List Char) :
      digits.foldl (fun n c => base * n + (digit? c).getD 0) 0 = valueOf digit? base digits := by
    simp only [valueOf, Nat.ofDigits_eq_foldr, List.foldr_reverse, List.foldl_map, Nat.cast_id]
    congr 1
    funext n c
    exact Nat.add_comm _ _
  simp only [readNumber, value]
  constructor
  · intro read
    split at read
    next => cases read
    next fits =>
      cases read
      simp only [Bool.or_eq_true, not_or, List.isEmpty_iff, decide_eq_true_eq, not_lt] at fits
      have parts := List.takeWhile_append_dropWhile (p := fun c => (digit? c).isSome) (l := cs)
      have rest : cs.drop (cs.takeWhile fun c => (digit? c).isSome).length =
          cs.dropWhile fun c => (digit? c).isSome := by
        nth_rewrite 2 [← parts]
        exact List.drop_left
      rw [rest]
      refine ⟨_, parts.symm, fits.1, fits.2, ?_, ends_dropWhile _ cs, rfl⟩
      intro c member
      exact List.mem_takeWhile_imp (p := fun c => (digit? c).isSome) member
  · rintro ⟨digits, rfl, filled, short, all, ends, rfl⟩
    rw [takeWhile_append all ends, List.drop_left, if_neg]
    simp [filled, short]

theorem valueOf_decimal {digits : List Char} (all : ∀ c ∈ digits, c.isDigit = true) :
    valueOf Numeral.digit? 10 digits = Nat.ofDigitChars 10 digits 0 := by
  have values : (digits.map fun c => (Numeral.digit? c).getD 0) =
      digits.map fun c => c.toNat - '0'.toNat := by
    refine List.map_congr_left fun c member => ?_
    rw [Numeral.digit?_eq_some.mpr ⟨all c member, rfl⟩, Option.getD_some]
  rw [valueOf, values, Nat.ofDigits_eq_foldr, List.foldr_reverse, List.foldl_map, Nat.ofDigitChars]
  congr 1
  funext n c
  exact Nat.add_comm _ _

theorem readOctet_eq_some {n : Nat} {cs rest : List Char} :
    readOctet cs = some (n, rest) ↔
      n ≤ 255 ∧ cs = Nat.toDigits 10 n ++ rest ∧ Ends Char.isDigit rest := by
  have usual (digits left : List Char) (m : Nat) (filled : digits ≠ []) :
      (decide (255 < m) || (digits ++ left).head? == some '0' &&
        decide (1 < (digits ++ left).length - left.length)) = true ↔
      ¬(m ≤ 255 ∧ (digits.head? = some '0' → digits.length = 1)) := by
    have positive := List.length_pos_iff.mpr filled
    simp only [List.head?_append_of_ne_nil _ filled, List.length_append, Nat.add_sub_cancel,
      Bool.or_eq_true, Bool.and_eq_true, beq_iff_eq, decide_eq_true_eq]
    grind
  unfold readOctet
  simp only [Option.bind_eq_bind, Option.bind_eq_some_iff, Prod.exists, readNumber_eq_some,
    Numeral.isSome_digit?]
  constructor
  · rintro ⟨m, left, ⟨digits, rfl, filled, -, all, ends, value⟩, checked⟩
    rw [valueOf_decimal all] at value
    split at checked
    next => cases checked
    next sound =>
      cases checked
      obtain ⟨small, short⟩ := not_not.mp ((usual digits rest n filled).not.mp sound)
      exact ⟨small, by rw [Numeral.toDigits_eq_iff.mpr ⟨⟨filled, all, value⟩, short⟩], ends⟩
  · rintro ⟨small, rfl, ends⟩
    obtain ⟨⟨filled, all, value⟩, short⟩ := Numeral.toDigits_eq_iff.mp (Eq.refl (Nat.toDigits 10 n))
    have few : (Nat.toDigits 10 n).length ≤ 3 :=
      (Nat.length_toDigits_le_iff (by decide) (by decide)).mpr (by omega)
    refine ⟨n, rest, ⟨_, rfl, filled, few, all, ends, ?_⟩, ?_⟩
    · rw [valueOf_decimal all, value]
    · rw [if_neg fun refused => (usual _ rest n filled).mp refused ⟨small, short⟩]
      rfl

/-! ## Octets -/

/-- What stands before a part of an address: a mark, but for the first part. -/
def lead (mark : Char) (first : Bool) : List Char := if first then [] else [mark]

theorem afterMark_eq_some {α : Type} {mark : Char} {first : Bool} {read : Reader α} {cs : List Char}
    {result : α × List Char} : afterMark mark first read cs = some result ↔
      ∃ tail, cs = lead mark first ++ tail ∧ read tail = some result := by
  cases first with
  | true => simp [afterMark, lead]
  | false =>
    cases cs with
    | nil => simp [afterMark, lead]
    | cons c tail =>
      by_cases same : c = mark
      · simp [afterMark, lead, same]
      · simp [afterMark, lead, same]

@[simp] theorem afterMark_lead {α : Type} (mark : Char) (first : Bool) (read : Reader α)
    (tail : List Char) : afterMark mark first read (lead mark first ++ tail) = read tail := by
  cases first <;> simp [afterMark, lead]

def SpellsOctets (cs : List Char) (octets : List Nat) : Prop :=
  ∃ a b c d, octets = [a, b, c, d] ∧ (∀ octet ∈ octets, octet ≤ 255) ∧
    cs = Nat.toDigits 10 a ++ '.' :: (Nat.toDigits 10 b ++ '.' :: (Nat.toDigits 10 c ++
      '.' :: Nat.toDigits 10 d))

theorem readOctets_eq_some {cs rest : List Char} {octets : List Nat} :
    readOctets cs = some (octets, rest) ↔
      ∃ text, SpellsOctets text octets ∧ cs = text ++ rest ∧ Ends Char.isDigit rest := by
  have point (cs : List Char) : Ends Char.isDigit ('.' :: cs) := ends_cons (by decide) cs
  simp only [readOctets, Option.bind_eq_bind, Option.bind_eq_some_iff, Prod.exists,
    afterMark_eq_some, readOctet_eq_some, lead, Bool.false_eq_true, if_false, List.cons_append,
    List.nil_append, Option.pure_def, Option.some_inj, Prod.mk.injEq]
  constructor
  · rintro ⟨a, _, ⟨smallA, rfl, -⟩, b, _, ⟨_, rfl, smallB, rfl, -⟩, c, _, ⟨_, rfl, smallC, rfl, -⟩,
      d, left, ⟨_, rfl, smallD, rfl, ends⟩, rfl, rfl⟩
    refine ⟨_, ⟨a, b, c, d, rfl, ?_, rfl⟩, ?_, ends⟩
    · simp [smallA, smallB, smallC, smallD]
    · simp
  · rintro ⟨_, ⟨a, b, c, d, rfl, small, rfl⟩, rfl, ends⟩
    simp only [List.forall_mem_cons] at small
    obtain ⟨smallA, smallB, smallC, smallD, -⟩ := small
    refine ⟨a, _, ⟨smallA, ?_, point _⟩, b, _, ⟨_, rfl, smallB, rfl, point _⟩, c, _,
      ⟨_, rfl, smallC, rfl, point _⟩, d, rest, ⟨_, rfl, smallD, rfl, ends⟩, rfl, rfl⟩
    simp

/-! ## Groups -/

def SpellsGroup (cs : List Char) (n : Nat) : Prop :=
  cs ≠ [] ∧ cs.length ≤ 4 ∧ (∀ c ∈ cs, (hexDigitValue? c).isSome = true) ∧
    valueOf hexDigitValue? 16 cs = n

/-- Groups with colons between them, of which the last two may be spelled as octets. -/
inductive Row : (octets : Bool) → List Char → List Nat → Prop where
  | group {cs : List Char} {n : Nat} (spells : SpellsGroup cs n) : Row false cs [n]
  | octets {cs : List Char} {a b c d : Nat} (spells : SpellsOctets cs [a, b, c, d]) :
    Row true cs [256 * a + b, 256 * c + d]
  | more {octets : Bool} {cs rest : List Char} {n : Nat} {ns : List Nat}
    (spells : SpellsGroup cs n) (row : Row octets rest ns) :
    Row octets (cs ++ ':' :: rest) (n :: ns)

/-- A row, or nothing, on one side of a gap. -/
inductive Side : (octets : Bool) → List Char → List Nat → Prop where
  | empty : Side false [] []
  | row {octets : Bool} {cs : List Char} {ns : List Nat} (row : Row octets cs ns) : Side octets cs ns

/-- Eight groups. A gap stands for the zeros that are missing, one at least; before it there are no
octets. -/
inductive SpellsGroups : List Char → List Nat → Prop where
  | whole {octets : Bool} {cs : List Char} {groups : List Nat} (row : Row octets cs groups)
    (eight : groups.length = 8) : SpellsGroups cs groups
  | gapped {octets : Bool} {front back : List Char} {fs bs : List Nat} (before : Side false front fs)
    (after : Side octets back bs) (missing : fs.length + bs.length < 8) :
    SpellsGroups (front ++ ':' :: ':' :: back)
      (fs ++ List.replicate (8 - fs.length - bs.length) 0 ++ bs)

theorem readGroup_eq_some {cs rest : List Char} {n : Nat} :
    readNumber hexDigitValue? 16 4 cs = some (n, rest) ↔
      ∃ text, SpellsGroup text n ∧ cs = text ++ rest ∧
        Ends (fun c => (hexDigitValue? c).isSome) rest := by
  rw [readNumber_eq_some]
  constructor
  · rintro ⟨digits, split, filled, short, all, ends, value⟩
    exact ⟨digits, ⟨filled, short, all, value⟩, split, ends⟩
  · rintro ⟨digits, ⟨filled, short, all, value⟩, split, ends⟩
    exact ⟨digits, split, filled, short, all, ends, value⟩

theorem readGroups_side {room : Nat} {first octets : Bool} {cs rest : List Char} {ns : List Nat}
    (read : readGroups room first cs = (ns, octets, rest)) :
    ns.length ≤ room ∧ ((ns = [] ∧ octets = false ∧ cs = rest) ∨
      ∃ text, Row octets text ns ∧ cs = lead ':' first ++ text ++ rest) := by
  induction room generalizing first cs ns with
  | zero =>
    cases read
    exact ⟨le_refl _, .inl ⟨rfl, rfl, rfl⟩⟩
  | succ room ih =>
    rw [readGroups] at read
    split at read
    next a b c d left attempt =>
      cases read
      split at attempt
      next => cases attempt
      next two =>
        obtain ⟨tail, rfl, inner⟩ := afterMark_eq_some.mp attempt
        obtain ⟨text, spells, rfl, -⟩ := readOctets_eq_some.mp inner
        refine ⟨?_, .inr ⟨text, .octets spells, (List.append_assoc ..).symm⟩⟩
        simp only [List.length_cons, List.length_nil]
        omega
    next =>
      split at read
      next group left found =>
        obtain ⟨tail, rfl, inner⟩ := afterMark_eq_some.mp found
        obtain ⟨text, spells, rfl, -⟩ := readGroup_eq_some.mp inner
        rcases later : readGroups room false left with ⟨more, ending, tail⟩
        rw [later] at read
        cases read
        obtain ⟨few, ⟨rfl, rfl, rfl⟩ | ⟨following, row, rfl⟩⟩ := ih later
        · exact ⟨Nat.succ_le_succ few, .inr ⟨text, .group spells, (List.append_assoc ..).symm⟩⟩
        · refine ⟨Nat.succ_le_succ few, .inr ⟨_, .more spells row, ?_⟩⟩
          simp [lead]
      next =>
        cases read
        exact ⟨Nat.zero_le _, .inl ⟨rfl, rfl, rfl⟩⟩

def Parts (rest : List Char) : Prop := rest = [] ∨ ∃ more, rest = ':' :: more

theorem Parts.ends {rest : List Char} (parts : Parts rest) {p : Char → Bool} (other : p ':' = false) :
    Ends p rest := by
  obtain rfl | ⟨more, rfl⟩ := parts
  · exact ends_nil p
  · exact ends_cons other more

theorem readOctets_of_hex {cs rest : List Char} (all : ∀ c ∈ cs, (hexDigitValue? c).isSome = true)
    (parts : Parts rest) : readOctets (cs ++ rest) = none := by
  rw [Option.eq_none_iff_forall_ne_some]
  rintro ⟨octets, left⟩ read
  obtain ⟨text, ⟨a, b, c, d, -, -, rfl⟩, same, -⟩ := readOctets_eq_some.mp read
  -- Up to the first colon there are hexadecimal digits on the one side, and a point on the other.
  have hex : (cs ++ rest).takeWhile (· != ':') = cs := by
    refine takeWhile_append (fun c member => ?_) (parts.ends (by decide))
    have digit := all c member
    rw [bne_iff_ne]
    rintro rfl
    exact absurd digit (by decide)
  have decimal : ∀ c ∈ Nat.toDigits 10 a, (c != ':') = true := by
    intro c member
    have digit := (Numeral.isDecimal_toDigits a).2.1 c member
    rw [bne_iff_ne]
    rintro rfl
    exact absurd digit (by decide)
  have point : '.' ∈ cs := by
    rw [same, List.append_assoc, List.takeWhile_append_of_pos decimal, List.cons_append,
      List.takeWhile_cons_of_pos (by decide)] at hex
    rw [← hex]
    exact List.mem_append_right _ (List.mem_cons_self ..)
  exact absurd (all _ point) (by decide)

theorem readGroup_of_ends {rest : List Char} (ends : Ends (fun c => (hexDigitValue? c).isSome) rest) :
    readNumber hexDigitValue? 16 4 rest = none := by
  rw [Option.eq_none_iff_forall_ne_some]
  rintro ⟨n, left⟩ read
  obtain ⟨text, ⟨filled, -, all, -⟩, rfl, -⟩ := readGroup_eq_some.mp read
  obtain ⟨c, cs, rfl⟩ := List.exists_cons_of_ne_nil filled
  exact absurd (all c (List.mem_cons_self ..)) (Bool.eq_false_iff.mp (ends c rfl))

theorem readOctets_of_parts {rest : List Char} (parts : Parts rest) : readOctets rest = none := by
  rw [← List.nil_append rest]
  exact readOctets_of_hex (List.forall_mem_nil _) parts

theorem readGroups_of_group {cs tail : List Char} {n : Nat} (spells : SpellsGroup cs n)
    (parts : Parts tail) (room : Nat) (first : Bool) :
    readGroups (room + 1) first (lead ':' first ++ (cs ++ tail)) =
      (n :: (readGroups room false tail).1, (readGroups room false tail).2) := by
  have attempt : (if room = 0 then none
      else afterMark ':' first readOctets (lead ':' first ++ (cs ++ tail))) = none := by
    rw [afterMark_lead, readOctets_of_hex spells.2.2.1 parts, ite_self]
  have group : readNumber hexDigitValue? 16 4 (cs ++ tail) = some (n, tail) :=
    readGroup_eq_some.mpr ⟨cs, spells, rfl, parts.ends (by decide)⟩
  rw [readGroups, attempt, afterMark_lead, group]

/-- What may follow a row: the end of the text, or a gap. -/
def Stops (rest : List Char) : Prop := rest = [] ∨ ∃ more, rest = ':' :: ':' :: more

theorem Stops.parts {rest : List Char} (stops : Stops rest) : Parts rest := by
  obtain rfl | ⟨more, rfl⟩ := stops
  · exact .inl rfl
  · exact .inr ⟨_, rfl⟩

theorem readGroups_of_stops (room : Nat) (first : Bool) {rest : List Char} (stops : Stops rest) :
    readGroups room first rest = ([], false, rest) := by
  have octets : readOctets rest = none := readOctets_of_parts stops.parts
  have group : readNumber hexDigitValue? 16 4 rest = none :=
    readGroup_of_ends (stops.parts.ends (by decide))
  cases room with
  | zero => rfl
  | succ room =>
    cases first with
    | true => simp [readGroups, afterMark, octets, group]
    | false =>
      obtain rfl | ⟨more, rfl⟩ := stops
      · simp [readGroups, afterMark]
      · have octets : readOctets (':' :: more) = none :=
          readOctets_of_parts (.inr ⟨more, rfl⟩)
        have group : readNumber hexDigitValue? 16 4 (':' :: more) = none :=
          readGroup_of_ends (ends_cons (by decide) more)
        simp [readGroups, afterMark, octets, group]

/-- A row is read as what it spells. -/
theorem readGroups_of_row {octets : Bool} {text rest : List Char} {ns : List Nat}
    (row : Row octets text ns) {room : Nat} (fits : ns.length ≤ room) (first : Bool)
    (stops : Stops rest) :
    readGroups room first (lead ':' first ++ (text ++ rest)) = (ns, octets, rest) := by
  induction row generalizing room first with
  | @group cs n spells =>
    obtain ⟨room, rfl⟩ := Nat.exists_eq_add_of_le' (show 1 ≤ room from fits)
    rw [readGroups_of_group spells stops.parts, readGroups_of_stops room false stops]
  | @octets cs a b c d spells =>
    obtain ⟨room, rfl⟩ := Nat.exists_eq_add_of_le' (show 2 ≤ room from fits)
    have read : readOctets (cs ++ rest) = some ([a, b, c, d], rest) :=
      readOctets_eq_some.mpr ⟨cs, spells, rfl, stops.parts.ends (by decide)⟩
    have attempt : (if room + 1 = 0 then none
        else afterMark ':' first readOctets (lead ':' first ++ (cs ++ rest))) =
        some ([a, b, c, d], rest) := by
      rw [if_neg (Nat.succ_ne_zero room), afterMark_lead, read]
    rw [readGroups, attempt]
  | @more octets cs following n ns spells row ih =>
    obtain ⟨room, rfl⟩ := Nat.exists_eq_add_of_le' (show 1 ≤ room from Nat.one_le_of_lt fits)
    have later := ih (Nat.le_of_succ_le_succ fits) false
    have parts : Parts (lead ':' false ++ (following ++ rest)) := .inr ⟨_, rfl⟩
    have whole := readGroups_of_group spells parts room first
    rw [later] at whole
    simpa [lead] using whole

theorem side_of_readGroups {room : Nat} {octets : Bool} {cs rest : List Char} {ns : List Nat}
    (read : readGroups room true cs = (ns, octets, rest)) :
    ns.length ≤ room ∧ ∃ text, Side octets text ns ∧ cs = text ++ rest := by
  obtain ⟨few, ⟨rfl, rfl, rfl⟩ | ⟨text, row, rfl⟩⟩ := readGroups_side read
  · exact ⟨few, [], .empty, rfl⟩
  · exact ⟨few, text, .row row, rfl⟩

theorem readGroups_of_side {room : Nat} {octets : Bool} {text rest : List Char} {ns : List Nat}
    (side : Side octets text ns) (fits : ns.length ≤ room) (stops : Stops rest) :
    readGroups room true (text ++ rest) = (ns, octets, rest) := by
  cases side with
  | empty => exact readGroups_of_stops room true stops
  | row row => exact readGroups_of_row row fits true stops

theorem readV6_eq_some {cs : List Char} {groups : List Nat} :
    readV6 cs = some (groups, []) ↔ SpellsGroups cs groups := by
  constructor
  · intro read
    rcases whole : readGroups 8 true cs with ⟨front, octets, rest⟩
    obtain ⟨few, text, side, rfl⟩ := side_of_readGroups whole
    simp only [readV6, whole] at read
    split at read
    next eight =>
      cases read
      rw [List.append_nil]
      cases side with
      | empty => cases eight
      | row row => exact .whole row eight
    next fewer =>
      split at read
      next => cases read
      next plain =>
        obtain rfl := Bool.eq_false_iff.mpr plain
        split at read
        next behind =>
          rcases later : readGroups (7 - front.length) true behind with ⟨back, ending, left⟩
          obtain ⟨room, following, after, rfl⟩ := side_of_readGroups later
          have missing : front.length + back.length < 8 := by omega
          rw [later] at read
          cases read
          rw [List.append_nil]
          exact .gapped side after missing
        next => cases read
  · rintro (⟨row, eight⟩ | @⟨octets, front, back, fs, bs, before, after, missing⟩)
    · have read := readGroups_of_side (.row row) eight.le (.inl rfl)
      rw [List.append_nil] at read
      simp only [readV6, read, eight, if_true]
    · have first := readGroups_of_side before (show fs.length ≤ 8 by omega) (.inr ⟨back, rfl⟩)
      have second := readGroups_of_side after (show bs.length ≤ 7 - fs.length by omega) (.inl rfl)
      rw [List.append_nil] at second
      have fewer : fs.length ≠ 8 := by omega
      simp only [readV6, first, second, fewer, if_false, Bool.false_eq_true]

/-! ## Addresses -/

inductive Spells (text : String) : Address → Prop where
  | v4 {octets : List Nat} (spells : SpellsOctets text.toList octets) :
    Spells text (.v4 (ofOctets octets))
  | v6 {groups : List Nat} (spells : SpellsGroups text.toList groups) :
    Spells text (.v6 (ofGroups groups))

theorem readOctets_of_row {octets : Bool} {cs : List Char} {ns : List Nat} (row : Row octets cs ns)
    {rest : List Char} (parts : Parts rest) (longer : octets = true → ns.length ≠ 2) :
    readOctets (cs ++ rest) = none := by
  cases row with
  | group spells => exact readOctets_of_hex spells.2.2.1 parts
  | octets spells => exact absurd rfl (longer rfl)
  | more spells row =>
    rw [List.append_assoc]
    exact readOctets_of_hex spells.2.2.1 (.inr ⟨_, rfl⟩)

/-- No text of version 6 begins as one of version 4. -/
theorem readOctets_of_groups {cs : List Char} {groups : List Nat} (spells : SpellsGroups cs groups) :
    readOctets cs = none := by
  cases spells with
  | whole row eight =>
    rw [← List.append_nil cs]
    exact readOctets_of_row row (.inl rfl) fun _ => by omega
  | gapped before after missing =>
    cases before with
    | empty => exact readOctets_of_parts (.inr ⟨_, rfl⟩)
    | row row => exact readOctets_of_row row (.inr ⟨_, rfl⟩) (by simp)

/-- Exactly the texts of an address are read as that address. -/
theorem ofText?_eq_some {text : String} {address : Address} :
    ofText? text = some address ↔ Spells text address := by
  constructor
  · intro read
    unfold ofText? at read
    split at read
    next octets whole =>
      cases read
      obtain ⟨front, spells, same, -⟩ := readOctets_eq_some.mp whole
      rw [List.append_nil] at same
      exact .v4 (by rw [same]; exact spells)
    next => cases read
    next =>
      split at read
      next groups whole =>
        cases read
        exact .v6 (readV6_eq_some.mp whole)
      next => cases read
  · rintro (spells | spells)
    · have whole := readOctets_eq_some.mpr ⟨_, spells, (List.append_nil _).symm, ends_nil _⟩
      simp only [ofText?, whole]
    · have whole := readV6_eq_some.mpr spells
      simp only [ofText?, readOctets_of_groups spells, whole]

/-- Octets may end a text of version 6, behind a gap too. -/
example : ofText? "::ffff:192.0.2.1" = some (.v6 0xFFFFC0000201) := by decide +kernel

end FrameLink.Inet.Address
