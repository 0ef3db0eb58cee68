import AddressIndex.Text.Cut

/-!
Paths: segments between slashes. The segment `.` means the place itself and `..` the place above.
-/

namespace AddressIndex.Http

/-- The segments so far and one more. There is no place above the first one. -/
def enterSegment (segments : List (List Char)) (segment : List Char) : List (List Char) :=
  if segment = ['.'] then segments
  else if segment = ['.', '.'] then
    if segments = [[]] then segments else segments.dropLast
  else segments ++ [segment]

/-- A path without segments of dots. -/
def withoutDots (path : List Char) : List Char :=
  Text.join '/' ((Text.split '/' path).foldl enterSegment [])

/-- A path without the slashes in front. -/
def withoutRoot (path : List Char) : List Char := path.dropWhile (· = '/')

/-- A path without the slashes at its end. -/
def withoutSlashes (path : List Char) : List Char := (path.reverse.dropWhile (· = '/')).reverse

end AddressIndex.Http
