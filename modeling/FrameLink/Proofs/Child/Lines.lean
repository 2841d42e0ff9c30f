import Mathlib
import FrameLink.Child.Lines
/-!
A child's output is read line by line up to the first line that is not text: what is behind that line is
not read at all. So every line is told, in an event of its own and in order, and the output is read to
its end, exactly if all lines are text.
-/

namespace FrameLink.Child

/-- The lines of a stream: what stands between line feeds, without a carriage return before one. What
stands behind the last line feed is a line as it is, unless it is nothing. -/
def linesOf (stream : Bytes) : List Bytes :=
  let pieces := stream.splitOn 10
  pieces.dropLast.map chomp ++ pieces.getLast?.toList.filter (!·.isEmpty)

def IsText (line : Bytes) : Prop := ∃ text, Bytes.ofText text = line

theorem linesOf_feed {line : Bytes} (whole : 10 ∉ line) (rest : Bytes) :
    linesOf (line ++ 10 :: rest) = chomp line :: linesOf rest := by
  have pieces := List.splitOn_append_cons_self_of_not_mem whole rest
  have more := List.splitOn_ne_nil (10 : UInt8) rest
  simp only [linesOf, pieces, List.dropLast_cons_of_ne_nil more, List.map_cons, List.cons_append,
    List.getLast?_cons_of_ne_nil more]

theorem linesOf_last {line : Bytes} (whole : 10 ∉ line) :
    linesOf line = if line.isEmpty then [] else [line] := by
  have alone := List.splitOn_eq_singleton whole
  cases line with
  | nil => rfl
  | cons byte line => simp [linesOf, alone]

theorem splitLine_feed {stream line rest : Bytes} (split : splitLine stream = (line, some rest)) :
    stream = line ++ 10 :: rest ∧ 10 ∉ line := by
  induction stream generalizing line with
  | nil => cases split
  | cons byte stream ih =>
    rw [splitLine] at split
    split at split
    next feed =>
      cases split
      exact ⟨by rw [feed, List.nil_append], List.not_mem_nil⟩
    next other =>
      cases later : splitLine stream with
      | mk first after =>
        rw [later] at split
        cases split
        obtain ⟨rfl, whole⟩ := ih later
        exact ⟨rfl, List.not_mem_cons_of_ne_of_not_mem (Ne.symm other) whole⟩

theorem splitLine_last {stream line : Bytes} (split : splitLine stream = (line, none)) :
    stream = line ∧ 10 ∉ line := by
  induction stream generalizing line with
  | nil =>
    cases split
    exact ⟨rfl, List.not_mem_nil⟩
  | cons byte stream ih =>
    rw [splitLine] at split
    split at split
    next => cases split
    next other =>
      cases later : splitLine stream with
      | mk first after =>
        rw [later] at split
        cases split
        obtain ⟨rfl, whole⟩ := ih later
        exact ⟨rfl, List.not_mem_cons_of_ne_of_not_mem (Ne.symm other) whole⟩

theorem not_isText {line : Bytes} {fault : Utf8.Fault} (decoded : Utf8.decode line = .error fault) :
    ¬IsText line := by
  rintro ⟨text, rfl⟩
  rw [Utf8.decode_ofText] at decoded
  cases decoded

inductive Finds (stream : Bytes) : Found → Prop where
  | ended (nothing : linesOf stream = []) : Finds stream .ended
  | line {text : String} {rest : Bytes} (lines : linesOf stream = Bytes.ofText text :: linesOf rest)
      (behind : rest <:+ stream) : Finds stream (.line text rest)
  | noText {bad rest : Bytes} (unread : ¬IsText bad) (lines : linesOf stream = bad :: linesOf rest)
      (behind : rest <:+ stream) : Finds stream (.noText rest)

theorem nextLine_finds (stream : Bytes) : Finds stream (nextLine stream) := by
  unfold nextLine
  split
  next line rest split =>
    obtain ⟨rfl, whole⟩ := splitLine_feed split
    have behind : rest <:+ line ++ 10 :: rest := ⟨line ++ [10], by simp⟩
    have lines := linesOf_feed whole rest
    split
    next text decoded =>
      rw [← Utf8.ofText_of_decode decoded] at lines
      exact .line lines behind
    next fault decoded => exact .noText (not_isText decoded) lines behind
  next line split =>
    obtain ⟨rfl, whole⟩ := splitLine_last split
    have lines := linesOf_last whole
    split
    next nothing => exact .ended (by rw [lines, if_pos nothing])
    next some =>
      rw [if_neg some] at lines
      split
      next text decoded =>
        have last := Utf8.ofText_of_decode decoded
        exact .line (by rw [last, lines, linesOf_last List.not_mem_nil]; rfl) List.nil_suffix
      next fault decoded => exact .noText (not_isText decoded) lines List.nil_suffix

/-- How far a stream is read: to its end, or to a line that is not text. -/
inductive Drains (stream : Bytes) : List String × Bytes → Prop where
  | ended {texts : List String} (lines : linesOf stream = texts.map Bytes.ofText) :
      Drains stream (texts, [])
  | noText {texts : List String} {bad left : Bytes} (unread : ¬IsText bad)
      (lines : linesOf stream = texts.map Bytes.ofText ++ bad :: linesOf left)
      (behind : left <:+ stream) : Drains stream (texts, left)

theorem drain_drains (stream : Bytes) : Drains stream (drain stream) := by
  fun_induction drain stream with
  | case1 stream found =>
    have finds := nextLine_finds stream
    rw [found] at finds
    cases finds with
    | ended nothing => exact .ended nothing
  | case2 stream rest found =>
    have finds := nextLine_finds stream
    rw [found] at finds
    cases finds with
    | noText unread lines behind => exact .noText unread lines behind
  | case3 stream text rest found texts left drained ih =>
    have finds := nextLine_finds stream
    rw [found] at finds
    rw [drained] at ih
    cases finds with
    | line lines behind =>
      cases ih with
      | ended others => exact .ended (by rw [lines, others, List.map_cons])
      | noText unread others later =>
        exact .noText unread (by rw [lines, others, List.map_cons, List.cons_append])
          (later.trans behind)

theorem drains_whole_iff {stream left : Bytes} {texts : List String}
    (drains : Drains stream (texts, left)) :
    left = [] ∧ texts.map Bytes.ofText = linesOf stream ↔ ∀ line ∈ linesOf stream, IsText line := by
  constructor
  · rintro ⟨-, all⟩ line member
    rw [← all] at member
    obtain ⟨text, -, spelled⟩ := List.mem_map.mp member
    exact ⟨text, spelled⟩
  · intro readable
    cases drains with
    | ended lines => exact ⟨rfl, lines.symm⟩
    | noText unread lines _ =>
      exact absurd (readable _ (lines ▸ List.mem_append_right _ List.mem_cons_self)) unread

/-- The output is told line by line, one event each and in order, and then that it is closed. The lines
that are told are those before the first one that is not text, and nothing behind that one is read; so
all are told, and the output is read to its end, exactly if all are text. -/
theorem every_line_told_iff (label : String) (isError : Bool) (stream : Bytes) :
    Drains stream (drain stream) ∧
    forward label isError stream =
      (drain stream).1.map (lineEvent label isError) ++ [closedEvent label] ∧
    ((drain stream).2 = [] ∧ (drain stream).1.map Bytes.ofText = linesOf stream ↔
      ∀ line ∈ linesOf stream, IsText line) := by
  have drains := drain_drains stream
  exact ⟨drains, rfl, drains_whole_iff drains⟩

/-- Between two lines of text stands one that is not: neither it nor the one behind it is told. -/
theorem line_behind_not_told :
    ¬∀ (label : String) (isError : Bool) (stream : Bytes), (drain stream).2 = [] ∧
      (forward label isError stream).length = (linesOf stream).length + 1 := by
  intro all
  let stream : Bytes := Bytes.ofText "ok" ++ 10 :: 255 :: 10 :: Bytes.ofText "after"
  obtain ⟨-, told⟩ := all "sh" false stream
  have fault : Utf8.decode [255] = .error ⟨0, some 1⟩ := by decide +kernel
  have bad : ¬IsText [255] := not_isText fault
  have lines : linesOf stream = [Bytes.ofText "ok", [255], Bytes.ofText "after"] := by
    decide +kernel
  have drains := drain_drains stream
  rw [forward, List.length_append, List.length_map] at told
  unfold Child.lines at told
  generalize drain stream = drained at told drains
  cases drains with
  | ended read =>
    have readable := (drains_whole_iff (.ended read)).mp ⟨rfl, read.symm⟩
    exact bad (readable _ (by rw [lines]; simp))
  | noText unread read _ =>
    rw [read, List.length_append, List.length_map] at told
    simp at told

end FrameLink.Child
