import FrameLink.Text.Marks
/-!
The directions in which characters are written, as far as they matter to names that are written from
right to left.
-/

namespace FrameLink.Text

inductive Direction where
  | left
  | right
  /-- letters of Arabic and its kin -/
  | arabic
  | number
  | arabicNumber
  /-- signs that join numbers, or stand before or after them -/
  | separator
  | sign
  | terminator
  /-- a mark, which goes as the character before it does -/
  | nonspacing
  | boundary
  | neutral
deriving DecidableEq, Repr

namespace Direction

def rightTable : List String := [
  "5be 5c0 5c3 5c6 5d0-5f4 7c0-7ea 7f4-7f5 7fa 7fe-815 81a 824 828 830-858 85e 10800-1091b",
  "10920-10a00 10a10-10a35 10a40-10ae4 10aeb-10b35 10b40-10cff 10d40-10d4f 10d6e-10d8f",
  "10e80-10ea9 10ead-10eb1 10f00-10f27 10f70-10f81 10f86-10ff6 1e800-1e8cf 1e922-1e943",
  "1e94b-1e95f"]

def arabicTable : List String := [
  "608 60b 60d 61b-64a 66d-66f 671-6d5 6e5-6e6 6ee-6ef 6fa-710 712-72f 74d-7a5 7b1 860-88f",
  "8a0-8c9 fbb2-fbc2 fe73 10d00-10d23 10ec2-10ed8 10f30-10f45 10f51-10f59 1ec71-1ed3d"]

def neutralTable : List String := [
  "a1 a6-ae b6-d7 f7 2b9-2ba 2c2-2cf 2d2-2ed 2ef-2ff 375 3f6 58a-58e 606-607 60e-60f 6de 6e9",
  "7f6-7f9 bf3-bf8 bfa c78-c7e f3a-f3d 1390-1399 1400 169b-169c 17f0-180a 1940-1945 19de-19ff",
  "1b4e-1b4f 1b7f 2010-2027 2035-2043 2045-205e 20c1 2104-2129 213a-214d 218a-2211 2214-2335",
  "237b-2394 2396-26ab 26ad-27ff 2900-2bff 2ce5-2cea 2cf9-2cff 2e00-3004 3008-3020 3030 3037",
  "303d-303f 30a0 30fb 31c0-31e5 4dc0-4dff a490-a4c6 a60d-a60f a673 a67e-a67f a700-a721 a788",
  "a828-a82b a874-a877 ab6a-ab6b fbc3-fdff fe45-fe46 10101 10140-1018c 10190-101a0 1091f",
  "10b39-10b3f 11052-11065 113d4-113d8 11660-1166c 11b00-11b09 11be1 11f43-11f4f 11fd5-11fdc",
  "11fe1-11ff1 16d6d-16d6f 16fe2 1cc00-1cef0 1d1e9-1d241 1d245 1d300-1d356 1e5ff 1eef0-1f12f",
  "1f16d-1f16f 1f1ad 1f260-1fbfa"]

def terminatorTable : List String := [
  "23-25 a2-a5 b0-b1 58f 609-60a 66a 9f2-9f3 9fb af1 bf9 e3f 17db 2030-2032 20a0-20c0 212e 2213",
  "a838-a839 11fdd-11fe0 1e2ff"]

def numberTable : List String := ["30-39 6f0-6f9 102e1-102fb"]

def arabicNumberTable : List String := ["660-669 66b-66c 10d30-10d39 10e60-10e7e"]

/-- Marks that are written as letters are, all the same. -/
def letteredTable : List String := ["cbf cc6 11a07-11a08 11c3f"]

/-- Characters that the tables do not name; the signs of ASCII come last. -/
def tables : List (Direction × Ranges) :=
  [(.left, .ofTable letteredTable), (.nonspacing, Text.nonspacing), (.right, .ofTable rightTable),
    (.arabic, .ofTable arabicTable), (.number, .ofTable numberTable),
    (.arabicNumber, .ofTable arabicNumberTable), (.terminator, .ofTable terminatorTable),
    (.separator, .ofTable ["2c 2e-2f 3a 60c 2044"]), (.sign, .ofTable ["2b 2d 2212"]),
    (.boundary, .ofTable ["0-8 e-1b 7f-9f 200c-200d"]), (.neutral, .ofTable neutralTable),
    (.left, .ofTable ["41-5a 61-7a"]), (.neutral, .ofTable ["9-d 1c-7f"])]

def ofChar (c : Char) : Direction :=
  ((tables.find? fun (_, ranges) => ranges.has c).map (·.1)).getD .left

end Direction

end FrameLink.Text
