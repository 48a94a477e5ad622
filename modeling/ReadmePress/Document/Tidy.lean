import ReadmePress.Text.Blank
import ReadmePress.Text.Lines

/-!
Tidying white space in Markdown. Line ends become line feeds and lose the blanks before them.
Outside code fences, blank lines at the start go, several become one, and a heading has one
before it; inside code fences blank lines stay. Blank lines at the end go, and the text ends in
one line feed.

A fence opens with three or more backticks or tildes at the start of a line, and closes with at
least as many of the same character.
-/

namespace ReadmePress.Tidy

open ReadmePress.Text

/-- The character and the length of a fence marker. -/
structure Fence where
  character : Char
  length : Nat
  deriving DecidableEq, Repr

/-- Characters that fence markers are made of. -/
def isFenceCharacter (character : Char) : Bool :=
  character == Char.ofNat 0x60 || character == '~'

/-- The fence marker at the start of a line. -/
def marker? : List Char → Option Fence
  | [] => none
  | first :: rest =>
      let length := (rest.takeWhile (· == first)).length + 1
      if isFenceCharacter first && 3 ≤ length then some { character := first, length := length }
      else none

def closes (opener marker : Fence) : Bool :=
  marker.character == opener.character && opener.length ≤ marker.length

def fenceAfter (fence : Option Fence) (line : List Char) : Option Fence :=
  match fence, marker? line with
  | none, marker => marker
  | some opener, none => some opener
  | some opener, some marker => if closes opener marker then none else some opener

def isHeading (line : List Char) : Bool := line.head? == some '#'

/-- Tidies lines that have lost their trailing blanks. `fence` is the open fence, and
`afterText` tells whether the line before, if there is one, is not blank. -/
def tidyLines (fence : Option Fence) (afterText : Bool) : List (List Char) → List (List Char)
  | [] => []
  | line :: rest =>
      let next := fenceAfter fence line
      if fence.isSome || (marker? line).isSome then
        line :: tidyLines next (!line.isEmpty) rest
      else if line.isEmpty then
        if afterText then [] :: tidyLines next false rest else tidyLines next false rest
      else if isHeading line && afterText then [] :: line :: tidyLines next true rest
      else line :: tidyLines next true rest

/-- Drops blank lines at the end. -/
def dropLastBlanks : List (List Char) → List (List Char)
  | [] => []
  | line :: rest =>
      match dropLastBlanks rest with
      | [] => if line.isEmpty then [] else [line]
      | kept => line :: kept

/-- The lines of a text without trailing blanks. -/
def trimmedLines (text : List Char) : List (List Char) :=
  (split '\n' (unifyNewlines text)).map trimEnd

/-- Tidies a text. -/
def tidyChars (text : List Char) : List Char :=
  join ['\n'] (dropLastBlanks (tidyLines none false (trimmedLines text))) ++ ['\n']

/-- Tidies a text. -/
def tidy (text : String) : String := String.ofList (tidyChars text.toList)

end ReadmePress.Tidy
