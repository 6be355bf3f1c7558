import SimpleSentence.Analysis
import SimpleSentence.Diagnostic
import SimpleSentence.Report.Table

/-!
The report on a text: its tag table, an empty line, the verdict, and then the
outline of the tree or the error shown against the text. The report on a file
puts the file's name and its trimmed text in front, or says that it is empty.
Without a table there is no report of either kind.
-/

namespace SimpleSentence.Report

def verdict (palette : Palette) (analysis : Analysis) : Text :=
  match analysis.outcome with
  | .ok tree =>
      palette.mark .accepted "accepted".toList ++ '\n' :: (tree.outline ++ ['\n'])
  | .error error =>
      palette.mark .rejected "rejected".toList ++
        '\n' :: (Text.trimEnd (error.render palette.isColoured none (some analysis.source)) ++
          ['\n'])

def ofAnalysis? (palette : Palette) (analysis : Analysis) : Option Text :=
  (tagTable? palette analysis.tagged.words).map fun table =>
    table ++ '\n' :: verdict palette analysis

def banner (palette : Palette) (name : Text) : Text :=
  palette.mark .header ("== ".toList ++ name ++ " ==".toList) ++ ['\n']

def ofFile? (palette : Palette) (lexicon : Lexicon) (name text : Text) : Option Text :=
  let trimmed := Text.trim text
  if trimmed.isEmpty then
    some (banner palette name ++ (palette.mark .rejected "empty file".toList ++ ['\n', '\n']))
  else
    (ofAnalysis? palette (lexicon.analyse trimmed)).map fun report =>
      banner palette name ++ (trimmed ++ '\n' :: '\n' :: (report ++ ['\n']))

end SimpleSentence.Report
