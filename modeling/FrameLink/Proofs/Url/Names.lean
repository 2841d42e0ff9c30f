import Mathlib
import FrameLink.Url.Domain
/-!
No host name has a colon: percent signs, letter case, composed letters, labels and the writing of labels
beyond ASCII leave each colon in the name, and a name that has one is refused. The same holds of every
character that none of these readings looks at, which is what `Inert` says.
-/

namespace FrameLink

/-! ## Bytes -/

namespace Url

theorem mem_decodePercent {byte : UInt8} (noPercent : byte ≠ 0x25)
    (noHex : Bytes.hexValue? (Char.ofNat byte.toNat) = none) {bytes : Bytes}
    (member : byte ∈ bytes) : byte ∈ decodePercent bytes := by
  fun_induction decodePercent bytes with
  | case1 high low rest h l lowDigit highDigit ih =>
    have other : ∀ (digit : UInt8) (n : Nat),
        Bytes.hexValue? (Char.ofNat digit.toNat) = some n → byte ≠ digit := by
      rintro digit n value rfl
      rw [noHex] at value
      cases value
    have afterPercent := List.mem_of_ne_of_mem noPercent member
    have afterHigh := List.mem_of_ne_of_mem (other high h highDigit) afterPercent
    exact List.mem_cons_of_mem _ (ih (List.mem_of_ne_of_mem (other low l lowDigit) afterHigh))
  | case2 high low rest noDigits ih =>
    exact List.mem_cons_of_mem _ (ih (List.mem_of_ne_of_mem noPercent member))
  | case3 first rest noTriple ih =>
    rw [List.mem_cons] at member ⊢
    exact member.imp_right ih
  | case4 => exact member

theorem ofText_eq_flatMap (text : String) :
    Bytes.ofText text = text.toList.flatMap String.utf8EncodeChar := by
  rw [Bytes.ofText, ← String.utf8Encode_toList]
  simp [List.utf8Encode]

theorem mem_utf8EncodeChar_iff {c d : Char} (ascii : c.toNat < 0x80) :
    UInt8.ofNat c.toNat ∈ String.utf8EncodeChar d ↔ c = d := by
  have same : ∀ n < 0x80, ∀ m < 256, UInt8.ofNat n = UInt8.ofNat m ↔ n = m := by
    intro n _ m _
    rw [← UInt8.toNat_inj, UInt8.toNat_ofNat', UInt8.toNat_ofNat']
    omega
  have valid : d.val.toNat < 0x110000 := by
    rcases d.valid with low | high
    · exact Nat.lt_trans low (by decide)
    · exact high.2
  rw [← Char.toNat_inj]
  simp only [Char.toNat] at ascii ⊢
  unfold String.utf8EncodeChar
  dsimp only
  split
  next one => rw [List.mem_singleton, same _ ascii _ (by omega)]
  next =>
    split
    next two =>
      simp only [List.mem_cons, List.not_mem_nil, or_false]
      rw [same _ ascii _ (by omega), same _ ascii _ (by omega)]
      omega
    next =>
      split
      next three =>
        simp only [List.mem_cons, List.not_mem_nil, or_false]
        rw [same _ ascii _ (by omega), same _ ascii _ (by omega), same _ ascii _ (by omega)]
        omega
      next four =>
        simp only [List.mem_cons, List.not_mem_nil, or_false]
        rw [same _ ascii _ (by omega), same _ ascii _ (by omega), same _ ascii _ (by omega),
          same _ ascii _ (by omega)]
        omega

theorem mem_ofText_iff {c : Char} (ascii : c.toNat < 0x80) (text : String) :
    UInt8.ofNat c.toNat ∈ Bytes.ofText text ↔ c ∈ text.toList := by
  simp only [ofText_eq_flatMap, List.mem_flatMap, mem_utf8EncodeChar_iff ascii, exists_eq_right']

end Url

/-! ## Composition -/

namespace Text.Composition

theorem mem_place {c d : Char} {done : List Char} : c ∈ place d done ↔ c = d ∨ c ∈ done := by
  induction done with
  | nil => simp [place]
  | cons e done ih =>
    rw [place]
    split
    next => rw [List.mem_cons, ih, List.mem_cons, or_left_comm]
    next => rw [List.mem_cons]

theorem mem_foldl_place {c : Char} {cs done : List Char} (member : c ∈ cs ∨ c ∈ done) :
    c ∈ cs.foldl (fun done d => place d done) done := by
  induction cs generalizing done with
  | nil => exact member.resolve_left List.not_mem_nil
  | cons d cs ih =>
    rw [List.foldl_cons]
    rw [List.mem_cons, or_assoc, or_left_comm, ← mem_place] at member
    exact ih member

section

variable {c : Char} (ascii : c.toNat < 0x80)
include ascii

theorem taken_of_ascii : ∀ marks, taken marks c = [c]
  | 0 => rfl
  | marks + 1 => by
    have noSyllable : Hangul.parts? c = none := by
      unfold Hangul.parts? Hangul.firstSyllable
      rw [if_pos]
      rw [Bool.or_eq_true, decide_eq_true_eq]
      exact .inl (by omega)
    have noComposite : composites.find? (·.whole == c) = none := by
      rw [List.find?_eq_none]
      intro made _ same
      have beyond := made.whole_beyond
      rw [eq_of_beq same] at beyond
      omega
    rw [taken, noSyllable]
    simp only [noComposite]

theorem mem_decomposed {cs : List Char} (member : c ∈ cs) : c ∈ decomposed cs := by
  rw [decomposed, List.mem_reverse]
  apply mem_foldl_place
  left
  rw [List.mem_flatMap]
  exact ⟨c, member, by rw [taken_of_ascii ascii]; exact List.mem_singleton_self c⟩

theorem hangul_join?_of_ascii (d : Char) : Hangul.join? c d = none ∧ Hangul.join? d c = none := by
  constructor
  · unfold Hangul.join? Hangul.firstLead Hangul.firstSyllable
    dsimp only
    rw [if_neg, if_neg]
    · simp only [Bool.and_eq_true, decide_eq_true_eq]
      omega
    · simp only [Bool.and_eq_true, decide_eq_true_eq]
      omega
  · unfold Hangul.join? Hangul.firstVowel Hangul.noTail
    dsimp only
    rw [if_neg, if_neg]
    · simp only [Bool.and_eq_true, decide_eq_true_eq]
      omega
    · simp only [Bool.and_eq_true, decide_eq_true_eq]
      omega

variable (bare : takesMark c = false)
include bare

theorem join?_of_bare (d : Char) : join? c d = none ∧ join? d c = none := by
  have noLetter : (composites.find? fun made => made.letter == c && made.mark == d) = none := by
    rw [List.find?_eq_none]
    intro made _ same
    have takes := made.letter_takesMark
    rw [eq_of_beq (Bool.and_eq_true_iff.mp same).1, bare] at takes
    cases takes
  have noMark : (composites.find? fun made => made.letter == d && made.mark == c) = none := by
    rw [List.find?_eq_none]
    intro made _ same
    have beyond := made.mark_beyond
    rw [eq_of_beq (Bool.and_eq_true_iff.mp same).2] at beyond
    omega
  have noSyllable := hangul_join?_of_ascii ascii d
  constructor
  · rw [join?, noSyllable.1, noLetter]
    rfl
  · rw [join?, noSyllable.2, noMark]
    rfl

theorem mem_flat_add {composing : Composing} {d : Char} (member : c ∈ composing.flat ∨ c = d) :
    c ∈ (composing.add d).flat := by
  unfold Composing.add
  dsimp only
  split
  next whole joined =>
    -- Neither the letter nor what joins it is the character, so it stands elsewhere and stays there.
    obtain ⟨-, pair⟩ := Option.ite_none_right_eq_some.mp joined
    obtain ⟨letter, found, made⟩ := Option.bind_eq_some_iff.mp pair
    have notLetter : c ≠ letter := by
      rintro rfl
      rw [(join?_of_bare ascii bare d).1] at made
      cases made
    have notMark : c ≠ d := by
      rintro rfl
      rw [(join?_of_bare ascii bare letter).2] at made
      cases made
    simp only [Composing.flat, found, Option.toList_some, List.mem_append, List.mem_singleton,
      notLetter, notMark, or_false] at member ⊢
    exact member.imp_left .inl
  next =>
    split
    next =>
      simp only [Composing.flat, Option.toList_some, List.append_nil, List.mem_append,
        List.mem_singleton] at member ⊢
      exact member
    next =>
      simp only [Composing.flat, List.mem_append, List.mem_singleton] at member ⊢
      exact or_assoc.mp member

theorem mem_foldl_add {cs : List Char} {composing : Composing}
    (member : c ∈ cs ∨ c ∈ composing.flat) : c ∈ (cs.foldl Composing.add composing).flat := by
  induction cs generalizing composing with
  | nil => exact member.resolve_left List.not_mem_nil
  | cons d cs ih =>
    rw [List.foldl_cons]
    rw [List.mem_cons, or_right_comm, or_comm] at member
    exact ih (member.imp_right (mem_flat_add ascii bare ∘ Or.symm))

theorem mem_compose {cs : List Char} (member : c ∈ cs) : c ∈ compose cs :=
  mem_foldl_add ascii bare (.inl (mem_decomposed ascii member))

end

end Text.Composition

/-! ## Labels in letters of ASCII -/

namespace Url

theorem eq_append_rtakeWhile {α : Type} {p : α → Bool} {l : List α}
    (short : (l.rtakeWhile p).length ≠ l.length) : ∃ a, p a = false ∧
      l = l.take (l.length - (l.rtakeWhile p).length - 1) ++ a :: l.rtakeWhile p := by
  have whole := List.rdropWhile_append_rtakeWhile (p := p) (l := l)
  have some : l.rdropWhile p ≠ [] := by
    intro none
    rw [none, List.nil_append] at whole
    exact short (congrArg List.length whole)
  have split : l = (l.rdropWhile p).dropLast ++
      (l.rdropWhile p).getLast some :: l.rtakeWhile p := by
    rw [List.append_cons, List.dropLast_append_getLast, whole]
  have length := congrArg List.length split
  rw [List.length_append, List.length_cons] at length
  have count : l.length - (l.rtakeWhile p).length - 1 = (l.rdropWhile p).dropLast.length := by omega
  have front := List.prefix_iff_eq_take.mp
    ((List.dropLast_prefix _).trans (List.rdropWhile_prefix p (l := l)))
  refine ⟨_, Bool.eq_false_iff.mpr (List.rdropWhile_last_not p l some), ?_⟩
  rw [count, ← front]
  exact split

namespace Punycode

variable {c : Char}

theorem mem_rest_of_number? (noDigit : digit? c = none) {bias position weight n : Nat}
    {cs rest : List Char} (read : number? bias position weight cs = some (n, rest))
    (member : c ∈ cs) : c ∈ rest := by
  induction cs generalizing position weight n with
  | nil => cases member
  | cons d cs ih =>
    rw [number?] at read
    obtain ⟨value, digit, next⟩ := Option.bind_eq_some_iff.mp read
    have behind : c ∈ cs := by
      refine List.mem_of_ne_of_mem ?_ member
      rintro rfl
      rw [noDigit] at digit
      cases digit
    dsimp only at next
    split at next
    next last =>
      cases next
      exact behind
    next further =>
      obtain ⟨⟨more, left⟩, inner, made⟩ := Option.bind_eq_some_iff.mp next
      cases made
      exact ih inner behind

theorem insertAll_eq_none (noDigit : digit? c = none) {bias point position : Nat} {isFirst : Bool}
    {done digits : List Char} (member : c ∈ digits) :
    insertAll bias point position isFirst done digits = none := by
  fun_induction insertAll bias point position isFirst done digits with
  | case1 bias point position isFirst done digits empty =>
    rw [List.isEmpty_iff.mp empty] at member
    cases member
  | case2 => rfl
  | case3 bias point position isFirst done digits some n rest read count place next valid ih =>
    exact ih (mem_rest_of_number? noDigit read member)
  | case4 => rfl

theorem mem_insertAll {bias point position : Nat} {isFirst : Bool} {done digits all : List Char}
    (made : insertAll bias point position isFirst done digits = some all) (member : c ∈ done) :
    c ∈ all := by
  fun_induction insertAll bias point position isFirst done digits with
  | case1 =>
    cases made
    exact member
  | case2 => cases made
  | case3 bias point position isFirst done digits some n rest read count place next valid ih =>
    apply ih made
    rw [List.mem_insertIdx (Nat.le_of_lt_succ (Nat.mod_lt _ (Nat.succ_pos _)))]
    exact .inr member
  | case4 => cases made

theorem mem_split (noDash : c ≠ '-') {cs : List Char} (member : c ∈ cs) :
    c ∈ (split cs).1 ∨ c ∈ (split cs).2 := by
  unfold split
  dsimp only
  split
  next => exact .inr member
  next some =>
    change c ∈ cs.take (cs.length - (cs.rtakeWhile (· ≠ '-')).length - 1) ∨
      c ∈ cs.rtakeWhile (· ≠ '-')
    have short : (cs.rtakeWhile (· ≠ '-')).length ≠ cs.length := by
      intro same
      apply some
      change (cs.take (cs.length - (cs.rtakeWhile (· ≠ '-')).length - 1)).isEmpty = true
      rw [same, Nat.sub_self]
      rfl
    obtain ⟨dash, isDash, whole⟩ := eq_append_rtakeWhile short
    rw [whole, List.mem_append, List.mem_cons] at member
    refine member.imp_right (Or.resolve_left · ?_)
    rintro rfl
    exact of_decide_eq_false isDash noDash

theorem mem_of_decode? (noDigit : digit? c = none) (noDash : c ≠ '-') {cs all : List Char}
    (decoded : decode? cs = some all) (member : c ∈ cs) : c ∈ all := by
  unfold decode? at decoded
  dsimp only at decoded
  split at decoded
  next =>
    rcases mem_split noDash member with basic | digits
    · exact mem_insertAll decoded basic
    · rw [insertAll_eq_none noDigit digits] at decoded
      cases decoded
  next => cases decoded

end Punycode

/-! ## Names -/

/-- What no reading of a name changes or looks at, and no name has. -/
structure Inert (c : Char) : Prop where
  ascii : c.toNat < 0x80
  bare : Text.Composition.takesMark c = false
  lower : c.toLower = c
  noPercent : c ≠ '%'
  noHex : Bytes.hexValue? c = none
  noDigit : Punycode.digit? c = none
  noDot : c ≠ '.'
  noDash : c ≠ '-'
  forbidden : isForbidden c = true

theorem inert_colon : Inert ':' where
  ascii := by decide
  bare := by decide
  lower := by decide
  noPercent := by decide
  noHex := by decide
  noDigit := by decide
  noDot := by decide
  noDash := by decide
  forbidden := by decide

namespace Domain

theorem mem_labels {c : Char} (noDot : c ≠ '.') {cs : List Char} (member : c ∈ cs) :
    ∃ label ∈ labels cs, c ∈ label := by
  induction cs with
  | nil => cases member
  | cons d cs ih =>
    rw [labels]
    split
    next none =>
      rw [none] at ih
      refine ⟨[d], List.mem_singleton_self _, ?_⟩
      rcases List.mem_cons.mp member with rfl | behind
      · exact List.mem_singleton_self _
      · obtain ⟨label, absent, -⟩ := ih behind
        cases absent
    next label more found =>
      rw [found] at ih
      split
      next dot =>
        obtain ⟨here, listed, inside⟩ := ih (List.mem_of_ne_of_mem (dot ▸ noDot) member)
        exact ⟨here, List.mem_cons_of_mem _ listed, inside⟩
      next =>
        rcases List.mem_cons.mp member with rfl | behind
        · exact ⟨_, List.mem_cons_self .., List.mem_cons_self ..⟩
        · obtain ⟨here, listed, inside⟩ := ih behind
          rcases List.mem_cons.mp listed with rfl | later
          · exact ⟨_, List.mem_cons_self .., List.mem_cons_of_mem _ inside⟩
          · exact ⟨here, List.mem_cons_of_mem _ later, inside⟩

theorem mem_of_mapM {α β : Type} {f : α → Option β} {l : List α} {made : List β} {a : α}
    (all : l.mapM f = some made) (member : a ∈ l) : ∃ b ∈ made, f a = some b := by
  induction l generalizing made with
  | nil => cases member
  | cons d l ih =>
    rw [List.mapM_cons] at all
    obtain ⟨b, first, next⟩ := Option.bind_eq_some_iff.mp all
    obtain ⟨more, others, whole⟩ := Option.bind_eq_some_iff.mp next
    cases whole
    rcases List.mem_cons.mp member with rfl | behind
    · exact ⟨b, List.mem_cons_self .., first⟩
    · obtain ⟨here, listed, image⟩ := ih others behind
      exact ⟨here, List.mem_cons_of_mem _ listed, image⟩

variable {c : Char} (inert : Inert c)
include inert

theorem not_mem_mark : c ∉ mark := by
  have letters : mark = ['x', 'n', '-', '-'] := by decide
  rw [letters]
  simp only [List.mem_cons, List.not_mem_nil, or_false, or_self]
  rintro (rfl | rfl | rfl)
  · exact absurd inert.noDigit (by decide)
  · exact absurd inert.noDigit (by decide)
  · exact inert.noDash rfl

theorem mem_of_meant? {label all : List Char} (meant : meant? label = some all)
    (member : c ∈ label) : c ∈ all := by
  unfold meant? at meant
  split at meant
  next marked =>
    split at meant
    next => cases meant
    next =>
      split at meant
      next decoded found =>
        split at meant
        next => cases meant
        next =>
          cases meant
          obtain ⟨rest, rfl⟩ := List.isPrefixOf_iff_prefix.mp marked
          rw [List.drop_left] at found
          have behind := (List.mem_append.mp member).resolve_left (not_mem_mark inert)
          exact Punycode.mem_of_decode? inert.noDigit inert.noDash found behind
      next => cases meant
  next =>
    cases meant
    exact member

theorem isSound_eq_false {label : List Char} (member : c ∈ label) : isSound label = false := by
  have bad : label.any isForbidden = true := List.any_eq_true.mpr ⟨c, member, inert.forbidden⟩
  simp [isSound, bad]

theorem ascii?_eq_none {name : List Char} (member : c ∈ name) : ascii? name = none := by
  unfold ascii?
  rw [Option.bind_eq_bind, Option.bind_eq_none_iff]
  intro images imaged
  rw [Option.bind_eq_none_iff]
  intro meant understood
  have image : image? c = some [c] := by rw [image?, if_pos inert.ascii, inert.lower]
  obtain ⟨itself, listed, made⟩ := mem_of_mapM imaged member
  cases image.symm.trans made
  have inImages : c ∈ images.flatten := List.mem_flatten.mpr ⟨_, listed, List.mem_singleton_self c⟩
  obtain ⟨label, labelled, inLabel⟩ :=
    mem_labels inert.noDot (Text.Composition.mem_compose inert.ascii inert.bare inImages)
  obtain ⟨plain, listed, read⟩ := mem_of_mapM understood labelled
  have unsound := isSound_eq_false inert (mem_of_meant? inert read inLabel)
  have notAll : meant.all isSound = false :=
    List.all_eq_false.mpr ⟨plain, listed, Bool.not_eq_true _ ▸ unsound⟩
  rw [notAll]
  rfl

end Domain

theorem domainOf?_eq_none {c : Char} (inert : Inert c) {cs : List Char} (member : c ∈ cs) :
    domainOf? cs = none := by
  unfold domainOf?
  split
  next => rfl
  next text decoded =>
    have byte : (UInt8.ofNat c.toNat).toNat = c.toNat := by
      have ascii := inert.ascii
      rw [UInt8.toNat_ofNat']
      omega
    have noHex : Bytes.hexValue? (Char.ofNat (UInt8.ofNat c.toNat).toNat) = none := by
      rw [byte, Char.ofNat_toNat]
      exact inert.noHex
    have noPercent : UInt8.ofNat c.toNat ≠ 0x25 := by
      intro same
      have value := congrArg UInt8.toNat same
      rw [byte] at value
      exact inert.noPercent (Char.toNat_inj.mp value)
    have inBytes : UInt8.ofNat c.toNat ∈ Bytes.ofText (String.ofList cs) := by
      rw [mem_ofText_iff inert.ascii, String.toList_ofList]
      exact member
    have inText : c ∈ text.toList := by
      rw [← mem_ofText_iff inert.ascii, Utf8.ofText_of_decode decoded]
      exact mem_decodePercent noPercent noHex inBytes
    have inName : c ∈ text.toList.map Char.toLower := List.mem_map.mpr ⟨c, inText, inert.lower⟩
    dsimp only
    split
    next => rw [if_pos (List.any_eq_true.mpr ⟨c, inName, inert.forbidden⟩)]
    next => exact Domain.ascii?_eq_none inert inName

end Url

end FrameLink
