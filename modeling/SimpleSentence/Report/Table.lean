import SimpleSentence.Report.Palette
import SimpleSentence.Token

/-!
The tag table: one row for each word with its tag and what the tag means. The
first two columns are as wide as their longest cell or header, and two spaces
separate the columns. A column can be only so wide, so there is no table, not
even a part of one, where a word is longer than that.
-/

namespace SimpleSentence.Report

def wordHeader : Text := "WORD".toList

def tagHeader : Text := "TAG".toList

def meaningHeader : Text := "DESCRIPTION".toList

def gap : Text := [' ', ' ']

def columnWidth (header : Text) (widths : List Nat) : Nat :=
  widths.foldl max (Text.byteLength header)

def wordWidth (tokens : List Token) : Nat :=
  columnWidth wordHeader (tokens.map fun token => Text.byteLength token.text)

def tagWidth (tokens : List Token) : Nat :=
  columnWidth tagHeader (tokens.map fun token => Text.byteLength token.category.code)

def headerRow (palette : Palette) (words tags : Text.PadWidth) : Text :=
  palette.mark .header
    (Text.padRight words wordHeader ++ gap ++ Text.padRight tags tagHeader ++ gap ++
      meaningHeader) ++ ['\n']

def tokenRow (palette : Palette) (words tags : Text.PadWidth) (token : Token) : Text :=
  Text.padRight words token.text ++ gap ++
    palette.mark .tag (Text.padRight tags token.category.code) ++ gap ++
    token.category.description ++ ['\n']

def tagRows (palette : Palette) (words tags : Text.PadWidth) (tokens : List Token) : Text :=
  headerRow palette words tags ++ tokens.flatMap (tokenRow palette words tags)

def tagTable? (palette : Palette) (tokens : List Token) : Option Text :=
  match Text.PadWidth.of? (wordWidth tokens), Text.PadWidth.of? (tagWidth tokens) with
  | some words, some tags => some (tagRows palette words tags tokens)
  | _, _ => none

end SimpleSentence.Report
