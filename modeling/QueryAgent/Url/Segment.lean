import QueryAgent.Url.Basic

namespace QueryAgent.Url

/-!
# Segments

The segments that a text adds to a path.  A single dot stands for the place
itself and two dots for the place above it.
-/

/-- One dot, as itself or in percent form. -/
def isSingleDot
    (segment : List Char) : Bool :=
  ["." , "%2e", "%2E"].contains (String.ofList segment)

/-- Two dots, each as itself or in percent form. -/
def isDoubleDot
    (segment : List Char) : Bool :=
  ["..", "%2e.", "%2E.", ".%2e", ".%2E", "%2e%2e", "%2e%2E", "%2E%2e", "%2E%2E"].contains
    (String.ofList segment)

/-- The mark behind the letter of a drive. -/
def isDriveMark
    (character : Char) : Bool :=
  character = ':' || character = '|'

/-- The letter of a drive with a colon or a bar. -/
def isDriveLetter : List Char → Bool
  | [letter, mark] =>
      letter.isAlpha && isDriveMark mark
  | _ =>
      false

/-- The letter of a drive as paths keep it. -/
def isKeptDriveLetter : List Char → Bool
  | [letter, ':'] =>
      letter.isAlpha
  | _ =>
      false

/-- A segment that is the letter of a drive up to its end or to a backslash. -/
def holdsDrive : List Char → Bool
  | letter :: mark :: '\\' :: _ =>
      letter.isAlpha && isDriveMark mark
  | segment =>
      isDriveLetter segment

/-- The place above; neither a drive nor the front of a path has one. -/
def above
    (segments : List (List Char)) : List (List Char) :=
  if segments.getLast?.any holdsDrive then
    segments
  else
    segments.dropLast

/-- A segment as the path keeps it; at the front of a file's path a drive gets its colon. -/
def keptSegment
    (isFile : Bool)
    (before : List (List Char))
    (segment : List Char) : List Char :=
  if isFile && before.isEmpty && isDriveLetter segment then
    segment.take 1 ++ [':']
  else
    segment

/-- Adds segments one after another; dots at the end leave the path open. -/
def addSegments
    (isFile : Bool)
    (before : List (List Char)) : List (List Char) → List (List Char)
  | [] =>
      before
  | [last] =>
      if isDoubleDot last then
        above before ++ [[]]
      else if isSingleDot last then
        before ++ [[]]
      else
        before ++ [keptSegment isFile before last]
  | segment :: rest =>
      if isDoubleDot segment then
        addSegments isFile (above before) rest
      else if isSingleDot segment then
        addSegments isFile before rest
      else
        addSegments isFile (before ++ [keptSegment isFile before segment]) rest

/-- The path of a file does not begin with empty segments. -/
def dropEmptyFront : List (List Char) → List (List Char)
  | [] :: next :: rest =>
      dropEmptyFront (next :: rest)
  | segments =>
      segments

/-- The character that ends a segment; special schemes take both slashes. -/
def isSlash
    (scheme : List Char)
    (character : Char) : Bool :=
  character = '/' || (character = '\\' && isSpecialScheme scheme)

/-- The segments of a place and of a text added to it. -/
def extended
    (scheme : List Char)
    (before : List (List Char))
    (content : List Char) : List (List Char) :=
  addSegments (isFileScheme scheme) before
    ((Text.splitAll (isSlash scheme) content).map (encode reservedInPath))

/-- The segments of a path after a text has been added at a place. -/
def resolve
    (scheme : List Char)
    (before : List (List Char))
    (content : List Char) : List (List Char) :=
  let segments := extended scheme before content
  if isFileScheme scheme then dropEmptyFront segments else segments

/-- A tab or a line break, which addresses leave out. -/
def isDropped
    (character : Char) : Bool :=
  character = '\t' || character = '\n' || character = '\r'

/-- The place itself, without the empty segment of an open path. -/
def withoutOpenEnd
    (segments : List (List Char)) : List (List Char) :=
  if segments.getLast? = some [] then
    segments.dropLast
  else
    segments

/-- Adds one segment that is not split; one that is only dots adds nothing. -/
def pushSegment
    (scheme : List Char)
    (segments : List (List Char))
    (segment : List Char) : List (List Char) :=
  let place := withoutOpenEnd segments
  if segment = ['.'] || segment = ['.', '.'] then
    place
  else
    let reserved :=
      if isSpecialScheme scheme then reservedInSpecialSegment else reservedInSegment
    addSegments (isFileScheme scheme) place
      [encode reserved (segment.filter (fun character => !isDropped character))]

/-- The address with one more segment, none when its path has no segments. -/
def push?
    (url : Url)
    (segment : List Char) : Option Url :=
  match url.path with
  | .plain _ =>
      none
  | .segments parts =>
      some { url with path := .segments (pushSegment url.scheme parts segment) }

/-- A path of a file whose first segment, if it is a drive, has its colon. -/
def withKeptDrive
    (isFile : Bool) : List (List Char) → List (List Char)
  | [] =>
      []
  | first :: rest =>
      keptSegment isFile [] first :: rest

/-- The address whose path ends with a slash, so that what is joined to it comes below it. -/
def opened
    (url : Url) : Url :=
  match url.path with
  | .plain [] =>
      { url with path := .plain "%2F".toList }
  | .plain content =>
      if content.getLast? = some '/' then
        url
      else
        { url with path := .plain (content ++ ['/']) }
  | .segments parts =>
      if parts.getLast? = some [] then
        url
      else
        { url with path := .segments (withKeptDrive (isFileScheme url.scheme) parts ++ [[]]) }

end QueryAgent.Url
