/-!
Text between double quotes on one line: quotes, backslashes and characters without a shape of
their own are written as escapes.
-/

namespace FrameLink.Text

def hexNumeral (n : Nat) : String := String.ofList (Nat.toDigits 16 n)

/-- Controls, separators, format characters and marks that would join the character before. -/
def shapelessRanges : List (Nat × Nat) :=
  [(0x00, 0x1F), (0x7F, 0xA0), (0xAD, 0xAD), (0x300, 0x36F), (0x600, 0x605), (0x61C, 0x61C),
    (0x6DD, 0x6DD), (0x70F, 0x70F), (0x1680, 0x1680), (0x180E, 0x180E), (0x2000, 0x200F),
    (0x2028, 0x202F), (0x205F, 0x206F), (0x20D0, 0x20F0), (0x3000, 0x3000), (0xE000, 0xF8FF),
    (0xFE00, 0xFE0F), (0xFE20, 0xFE2F), (0xFEFF, 0xFEFF), (0xFFF0, 0xFFFB), (0xFFFE, 0xFFFF),
    (0xE0000, 0x10FFFF)]

def isShapeless (c : Char) : Bool :=
  shapelessRanges.any fun (low, high) => low ≤ c.toNat && c.toNat ≤ high

def quoteChar : Char → String
  | '\x00' => "\\0"
  | '\t' => "\\t"
  | '\n' => "\\n"
  | '\r' => "\\r"
  | '"' => "\\\""
  | '\\' => "\\\\"
  | c => if isShapeless c then "\\u\x7b" ++ hexNumeral c.toNat ++ "\x7d" else String.singleton c

def quoted (text : String) : String :=
  "\"" ++ text.foldl (fun done c => done ++ quoteChar c) "" ++ "\""

end FrameLink.Text
