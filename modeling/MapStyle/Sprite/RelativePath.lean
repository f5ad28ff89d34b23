/-
Paths relative to a directory.

The segments of a path are kept in a stack, the last segment first.  In a path that
is read inside a directory, empty segments and `.` change nothing and `..` takes the
nearest ordinary segment away.  Above the root there is nothing; above a directory
that is itself relative, `..` is kept.

* `RelativePath.push` — the stack with one more segment;
* `RelativePath.join` — a path read inside a directory.
-/
import MapStyle.Text.Split

namespace MapStyle.RelativePath

/-- The segments with one more, the last first. -/
def push (absolute : Bool) (stack : List String) (segment : String) : List String :=
  if segment = "" ∨ segment = "." then stack
  else if segment = ".." then
    match stack with
    | last :: rest => if last = ".." then (if absolute then stack else ".." :: stack) else rest
    | [] => if absolute then [] else [".."]
  else segment :: stack

/-- The segments of a directory, the last first, of which none is empty. -/
def segments (directory : String) : List String :=
  ((Text.split '/' directory).filter (· ≠ "")).reverse

/-- The path that a stack of segments is. -/
def text (absolute : Bool) (stack : List String) : String :=
  (if absolute then "/" else "") ++ String.intercalate "/" stack.reverse

/-- A path read inside a directory.  One that begins at the root stays as it is. -/
def join (directory path : String) : String :=
  if path.startsWith "/" then path
  else
    let absolute := directory.startsWith "/"
    text absolute ((Text.split '/' path).foldl (push absolute) (segments directory))

end MapStyle.RelativePath
