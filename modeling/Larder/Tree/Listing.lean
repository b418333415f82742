import Larder.Command.Session

/-!
# Larder — listings

A world written as lines, one for each thing in it: a letter, a space and a path. `w` names the
working directory, `d` a directory, `f` a file, and `l` a symbolic link, whose target follows after
a tab. Directories above what is listed are there too; other lines are passed over.
-/

namespace Larder

/-- What the lines of a listing name. -/
structure Listing where
  cwd : Path := ⟨.single, []⟩
  directories : List Path := []
  files : List Path := []
  /-- The links with their targets. -/
  links : List (Path × Path) := []

namespace Listing

/-- A text before and after its first tab. -/
def cutAtTab (cs : List Char) : List Char × List Char :=
  (cs.takeWhile (· ≠ '\t'), (cs.dropWhile (· ≠ '\t')).tail)

/-- The listing with one more line read. -/
def addLine (l : Listing) (line : String) : Listing :=
  match line.toList with
  | 'w' :: ' ' :: path => { l with cwd := Path.ofChars path }
  | 'd' :: ' ' :: path => { l with directories := l.directories ++ [Path.ofChars path] }
  | 'f' :: ' ' :: path => { l with files := l.files ++ [Path.ofChars path] }
  | 'l' :: ' ' :: rest =>
    let cut := cutAtTab rest
    { l with links := l.links ++ [(Path.ofChars cut.1, Path.ofChars cut.2)] }
  | _ => l

/-- The listing that lines make. -/
def ofLines (lines : List String) : Listing := lines.foldl addLine {}

/-- The world that a listing describes. -/
def world (l : Listing) : World where
  cwd := l.cwd
  tree := Tree.ofPaths l.directories l.files l.links
  console := .tabbed

end Listing

end Larder
