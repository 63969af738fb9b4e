import SqlRegexp.Verification.Check

/-!
The checks that the program runs on itself, one for each rule of the dialect that other dialects
decide differently.
-/

namespace SqlRegexp

namespace Check

def textOf (s : String) : Value := .text s.toList

/-- A check of a function on a subject and a pattern, with arguments after them. -/
def about (name : String) (f : Function) (subject pattern : String) (more : List Value)
    (named : List (String × Value)) (expected : Value) : Check :=
  ⟨name, ⟨f, textOf subject :: textOf pattern :: more, named⟩, expected⟩

def table : List Check :=
  [about "REGEXP_LIKE dot" .like "hello world" "wor.d" [] [] (.boolean true),
   about "REGEXP_LIKE no match" .like "hello world" "^world" [] [] (.boolean false),
   about "REGEXP_LIKE case-insensitive" .like "Hello" "^hello$" [textOf "i"] [] (.boolean true),
   about "REGEXP_LIKE dot stops at newline" .like "a\nb" "a.b" [] [] (.boolean false),
   about "REGEXP_LIKE n crosses newline" .like "a\nb" "a.b" [textOf "n"] [] (.boolean true),
   about "REGEXP_LIKE m anchors lines" .like "a\nb" "^b$" [textOf "m"] [] (.boolean true),
   about "REGEXP_LIKE $ ignores trailing newline" .like "ab\n" "b$" [] [] (.boolean false),
   about "REGEXP_COUNT all" .count "ababab" "ab" [] [] (.integer 3),
   about "REGEXP_COUNT from position" .count "ababab" "ab" [.integer 2] [] (.integer 2),
   about "REGEXP_COUNT anchor at position" .count "abab" "^ab" [.integer 3] [] (.integer 1),
   about "REGEXP_INSTR second occurrence" .instr "ababab" "ab" [] [("occurrence", .integer 2)]
     (.integer 3),
   about "REGEXP_INSTR past the end" .instr "ababab" "ab" [.integer 1, .integer 1, .integer 1] []
     (.integer 3),
   about "REGEXP_INSTR missing occurrence" .instr "ababab" "ab" [] [("occurrence", .integer 4)]
     (.integer 0),
   about "REGEXP_INSTR subexpression" .instr "2024-01-02" "(\\d+)-(\\d+)-(\\d+)"
     [.integer 1, .integer 1, .integer 0, .null, .integer 3] [] (.integer 9),
   about "REGEXP_SUBSTR third occurrence" .substr "ababab" "ab" [] [("occurrence", .integer 3)]
     (textOf "ab"),
   about "REGEXP_SUBSTR subexpression" .substr "2024-01-02" "(\\d+)-(\\d+)-(\\d+)" []
     [("group", .integer 2)] (textOf "01"),
   about "REGEXP_SUBSTR group 1 without groups" .substr "abc" "b" [] [("group", .integer 1)]
     .null]

end Check

end SqlRegexp
