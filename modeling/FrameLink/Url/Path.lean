import FrameLink.Url.Percent
/-!
Paths of hierarchical URLs. Slashes and backslashes both end a segment; a segment `.` is dropped
and a segment `..` drops the one before it, unless that one looks like the letter of a drive.
-/

namespace FrameLink.Url

/-- Segments that stand for the one before: `..`, with either dot spelled `%2e`. -/
def isDoubleDot (segment : List Char) : Bool :=
  let s := segment.map Char.toLower
  s = "..".toList || s = ".%2e".toList || s = "%2e.".toList || s = "%2e%2e".toList

def isSingleDot (segment : List Char) : Bool :=
  let s := segment.map Char.toLower
  s = ['.'] || s = "%2e".toList

def isDriveLetter (segment : List Char) : Bool :=
  match segment with
  | [c, mark] => c.isAlpha && (mark = ':' || mark = '|')
  | _ => false

/-- Segments up to the next separator, and whether one followed. -/
def splitSegments : List Char → List (List Char)
  | [] => [[]]
  | c :: rest =>
    match splitSegments rest with
    | [] => [[c]]
    | segment :: more =>
      if c = '/' || c = '\\' then [] :: segment :: more else (c :: segment) :: more

/-- `done` holds the finished segments, the latest first. A last segment that is dropped leaves an
empty one in its place. -/
def resolveDots (done : List (List Char)) : List (List Char) → List (List Char)
  | [] => done
  | segment :: rest =>
    let done :=
      if isDoubleDot segment then
        match done with
        | last :: before => if isDriveLetter last then done else before
        | [] => []
      else if isSingleDot segment then done
      else segment :: done
    if rest.isEmpty && (isDoubleDot segment || isSingleDot segment) then [] :: done
    else resolveDots done rest

/-- The path after the host; what comes before the query, with or without its first slash. -/
def resolvePath (cs : List Char) : List Char :=
  let cs := match cs with
    | '/' :: rest | '\\' :: rest => rest
    | cs => cs
  let segments := (splitSegments cs).map (encode pathPart)
  (resolveDots [] segments).reverse.flatMap fun segment => '/' :: segment

end FrameLink.Url
