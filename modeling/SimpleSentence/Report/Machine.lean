import SimpleSentence.Analysis
import SimpleSentence.Json

/-!
Reports for machines. Tokens carry their text, category, number and span; the
report on a text has its word tokens and then either the tree or the error with
its message, the expected categories and the offending token.
-/

namespace SimpleSentence

def Span.json (span : Span) : Json :=
  .object [("start".toList, .number span.start), ("end".toList, .number span.stop)]

def Token.json (token : Token) : Json :=
  .object
    [("text".toList, .text token.text), ("pos".toList, .text token.category.name),
      ("index".toList, .number token.index), ("span".toList, token.span.json)]

def CategorySet.json (set : CategorySet) : Json :=
  .array (set.members.map fun category => .text category.name)

namespace Tree

mutual

def json : Tree → Json
  | phrase kind children =>
      .object
        [("type".toList, .text "phrase".toList), ("kind".toList, .text kind.label),
          ("children".toList, .array (jsonOf children))]
  | word text category index =>
      .object
        [("type".toList, .text "word".toList), ("text".toList, .text text),
          ("pos".toList, .text category.name), ("index".toList, .number index)]

def jsonOf : List Tree → List Json
  | [] => []
  | tree :: rest => json tree :: jsonOf rest

end

end Tree

def ParseError.json (error : ParseError) : Json :=
  .object
    [("message".toList, .text error.message), ("expected".toList, error.expected.json),
      ("found".toList, error.found.json)]

namespace Report

def tokensJson (tokens : List Token) : Json := .array (tokens.map Token.json)

def json (analysis : Analysis) : Json :=
  .object
    ([("accepted".toList, .bool analysis.isAccepted),
      ("tokens".toList, tokensJson analysis.tagged.words)] ++
      match analysis.outcome with
      | .ok tree => [("tree".toList, tree.json)]
      | .error error => [("error".toList, error.json)])

end Report

end SimpleSentence
