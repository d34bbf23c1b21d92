import PlanGuard.Workbench.Shell.Word

/-!
# Scripts of a shell

A script is read in two steps: its text into tokens, and these into the tree of
its commands.  A script that cannot be read names the token that is in the way.
-/

namespace PlanGuard.Workbench.Shell

inductive Token where
  | word (word : Word)
  | operator (text : String)
  /-- A redirection of the stream with this number. -/
  | redirect (number : Nat) (operator : String)
  | newline
  deriving DecidableEq

inductive SyntaxError where
  | unclosed
  | unexpected (token : String)
  deriving DecidableEq

namespace SyntaxError

def message : SyntaxError → String
  | .unclosed => "Syntax error: Unterminated quoted string"
  | .unexpected token => s!"Syntax error: {token} unexpected"

end SyntaxError

/-- The operators between commands, longer ones first. -/
def controlOperators : List String :=
  ["&&", "||", ";;", "&", "|", ";", "(", ")"]

def redirections : List String :=
  [">>", ">&", "<&", ">|", "<>", ">", "<"]

/-- A redirection at the front of a text, with the number of its stream. -/
def redirection? (letters : List Char) : Option (Nat × String × List Char) :=
  let digits := letters.takeWhile Char.isDigit
  let rest := letters.drop digits.length
  (redirections.find? fun operator => operator.toList.isPrefixOf rest).map
    fun operator =>
      let usual := if operator.startsWith "<" then 0 else 1
      let number := ((String.ofList digits).toNat?).getD usual
      (number, operator, rest.drop operator.length)

def tokens : (fuel : Nat) → List Char → Except SyntaxError (List Token)
  | 0, _ => .ok []
  | _ + 1, [] => .ok []
  | fuel + 1, c :: rest =>
      if c = ' ' || c = '\t' then tokens fuel rest
      else if c = '\\' && rest.head? = some '\n' then tokens fuel rest.tail
      else if c = '#' then tokens fuel (rest.dropWhile (· != '\n'))
      else if c = '\n' then (tokens fuel rest).map (Token.newline :: ·)
      else
        match redirection? (c :: rest) with
        | some (number, operator, rest) =>
            (tokens fuel rest).map (Token.redirect number operator :: ·)
        | none =>
            match controlOperators.find? fun operator =>
                operator.toList.isPrefixOf (c :: rest) with
            | some operator =>
                (tokens fuel ((c :: rest).drop operator.length)).map
                  (Token.operator operator :: ·)
            | none =>
                match readWord (rest.length + 2) .bare (c :: rest) with
                | none => .error .unclosed
                | some (word, rest) =>
                    (tokens fuel rest).map (Token.word word :: ·)

structure Redirect where
  number : Nat
  operator : String
  target : Word
  deriving DecidableEq

inductive Script where
  | nothing
  /-- Assignments, the words of a command, and its redirections. -/
  | simple (assignments : List (String × Word)) (words : List Word)
      (redirects : List Redirect)
  | pipe (first second : Script)
  | both (first second : Script)
  | either (first second : Script)
  | sequence (first second : Script)
  | background (body : Script)
  | negated (body : Script)
  | group (apart : Bool) (body : Script) (redirects : List Redirect)
  | choose (test yes no : Script)
  | loop (holds : Bool) (test body : Script)
  | each (name : String) (words : Option (List Word)) (body : Script)

/-- The words that end a list of commands when they stand where one could. -/
def closers : List String :=
  ["then", "elif", "else", "fi", "do", "done", "\x7d"]

/-- The name and value of a word that assigns. -/
def assignment? : Word → Option (String × Word)
  | .text content false :: rest =>
      let letters := content.toList
      let name := letters.takeWhile inName
      match letters.drop name.length with
      | '=' :: value =>
          if (name.head?.any startsName) then
            some (String.ofList name,
              if value.isEmpty then rest
              else .text (String.ofList value) false :: rest)
          else none
      | _ => none
  | _ => none

/-- A token as an error names it. -/
def Token.shown : Token → String
  | .word (.text content _ :: _) => "\"" ++ content ++ "\""
  | .word _ => "word"
  | .operator text => "\"" ++ text ++ "\""
  | .redirect _ _ => "redirection"
  | .newline => "newline"

def unexpected {α : Type} : List Token → Except SyntaxError α
  | [] => .error (.unexpected "end of file")
  | token :: _ => .error (.unexpected token.shown)

def skipNewlines : List Token → List Token
  | .newline :: rest => skipNewlines rest
  | rest => rest

def expectWord (content : String) : List Token → Except SyntaxError (List Token)
  | .word [.text found false] :: rest =>
      if found = content then .ok rest
      else unexpected (.word [.text found false] :: rest)
  | rest => unexpected rest

def readRedirects : List Token → Except SyntaxError (List Redirect × List Token)
  | .redirect number operator :: .word target :: rest =>
      (readRedirects rest).map fun (redirects, rest) =>
        (⟨number, operator, target⟩ :: redirects, rest)
  | .redirect _ _ :: rest => unexpected rest
  | rest => .ok ([], rest)

def readSimple (assigns : Bool) :
    List Token → Except SyntaxError
      (List (String × Word) × List Word × List Redirect × List Token)
  | .redirect number operator :: .word target :: rest =>
      (readSimple assigns rest).map fun (assignments, words, redirects, rest) =>
        (assignments, words, ⟨number, operator, target⟩ :: redirects, rest)
  | .redirect _ _ :: rest => unexpected rest
  | .word word :: rest =>
      match if assigns then assignment? word else none with
      | some assignment =>
          (readSimple true rest).map fun (assignments, words, redirects, rest) =>
            (assignment :: assignments, words, redirects, rest)
      | none =>
          (readSimple false rest).map fun (assignments, words, redirects, rest) =>
            (assignments, word :: words, redirects, rest)
  | rest => .ok ([], [], [], rest)

def readWords : List Token → List Word × List Token
  | .word word :: rest =>
      let (words, rest) := readWords rest
      (word :: words, rest)
  | rest => ([], rest)

/-- A separator before the body of a loop, and line breaks. -/
def skipSeparator : List Token → List Token
  | .operator ";" :: rest => skipNewlines rest
  | rest => skipNewlines rest

mutual

/-- Commands up to a word or operator that ends them. -/
def readList : (fuel : Nat) → List Token → Except SyntaxError (Script × List Token)
  | 0, rest => unexpected rest
  | fuel + 1, given =>
      match skipNewlines given with
      | [] => .ok (.nothing, [])
      | .operator ")" :: rest => .ok (.nothing, .operator ")" :: rest)
      | first :: rest =>
          let closes : Bool :=
            match first with
            | .word [.text content false] => closers.contains content
            | _ => false
          if closes then .ok (.nothing, first :: rest)
          else do
            let (script, rest) ← readChain fuel (first :: rest)
            match rest with
            | .operator "&" :: rest =>
                let (more, rest) ← readList fuel rest
                pure (.sequence (.background script) more, rest)
            | .operator ";" :: rest | .newline :: rest =>
                let (more, rest) ← readList fuel rest
                pure (.sequence script more, rest)
            | rest => pure (script, rest)

def readChain : (fuel : Nat) → List Token → Except SyntaxError (Script × List Token)
  | 0, rest => unexpected rest
  | fuel + 1, rest => do
      let (first, rest) ← readPipeline fuel rest
      readLinks fuel first rest

/-- What is joined to a pipeline. -/
def readLinks : (fuel : Nat) → Script → List Token →
    Except SyntaxError (Script × List Token)
  | 0, _, rest => unexpected rest
  | fuel + 1, first, .operator "&&" :: rest => do
      let (second, rest) ← readPipeline fuel (skipNewlines rest)
      readLinks fuel (.both first second) rest
  | fuel + 1, first, .operator "||" :: rest => do
      let (second, rest) ← readPipeline fuel (skipNewlines rest)
      readLinks fuel (.either first second) rest
  | _ + 1, first, rest => .ok (first, rest)

def readPipeline : (fuel : Nat) → List Token →
    Except SyntaxError (Script × List Token)
  | 0, rest => unexpected rest
  | fuel + 1, .word [.text "!" false] :: rest => do
      let (script, rest) ← readPipeline fuel rest
      pure (.negated script, rest)
  | fuel + 1, rest => do
      let (first, rest) ← readCommand fuel rest
      match rest with
      | .operator "|" :: rest =>
          let (second, rest) ← readPipeline fuel (skipNewlines rest)
          pure (.pipe first second, rest)
      | rest => pure (first, rest)

def readChoice : (fuel : Nat) → List Token → Except SyntaxError (Script × List Token)
  | 0, rest => unexpected rest
  | fuel + 1, rest => do
      let (test, rest) ← readList fuel rest
      let rest ← expectWord "then" rest
      let (yes, rest) ← readList fuel rest
      match rest with
      | .word [.text "elif" false] :: rest =>
          let (no, rest) ← readChoice fuel rest
          pure (.choose test yes no, rest)
      | .word [.text "else" false] :: rest =>
          let (no, rest) ← readList fuel rest
          let rest ← expectWord "fi" rest
          pure (.choose test yes no, rest)
      | rest =>
          let rest ← expectWord "fi" rest
          pure (.choose test yes .nothing, rest)

def readBody : (fuel : Nat) → List Token → Except SyntaxError (Script × List Token)
  | 0, rest => unexpected rest
  | fuel + 1, rest => do
      let rest ← expectWord "do" rest
      let (body, rest) ← readList fuel rest
      let rest ← expectWord "done" rest
      pure (body, rest)

def readCommand : (fuel : Nat) → List Token → Except SyntaxError (Script × List Token)
  | 0, rest => unexpected rest
  | fuel + 1, .operator "(" :: rest => do
      let (body, rest) ← readList fuel rest
      match rest with
      | .operator ")" :: rest =>
          let (redirects, rest) ← readRedirects rest
          pure (.group true body redirects, rest)
      | rest => unexpected rest
  | fuel + 1, .word [.text "\x7b" false] :: rest => do
      let (body, rest) ← readList fuel rest
      let rest ← expectWord "\x7d" rest
      let (redirects, rest) ← readRedirects rest
      pure (.group false body redirects, rest)
  | fuel + 1, .word [.text "if" false] :: rest => do
      let (script, rest) ← readChoice fuel rest
      let (redirects, rest) ← readRedirects rest
      pure (.group false script redirects, rest)
  | fuel + 1, .word [.text "while" false] :: rest => do
      let (test, rest) ← readList fuel rest
      let (body, rest) ← readBody fuel rest
      let (redirects, rest) ← readRedirects rest
      pure (.group false (.loop true test body) redirects, rest)
  | fuel + 1, .word [.text "until" false] :: rest => do
      let (test, rest) ← readList fuel rest
      let (body, rest) ← readBody fuel rest
      let (redirects, rest) ← readRedirects rest
      pure (.group false (.loop false test body) redirects, rest)
  | fuel + 1, .word [.text "for" false] :: .word [.text name false] :: rest => do
      let (words, rest) : Option (List Word) × List Token :=
        match skipNewlines rest with
        | .word [.text "in" false] :: rest =>
            let (words, rest) := readWords rest
            (some words, rest)
        | rest => (none, rest)
      let (body, rest) ← readBody fuel (skipSeparator rest)
      let (redirects, rest) ← readRedirects rest
      pure (.group false (.each name words body) redirects, rest)
  | _ + 1, given => do
      let (assignments, words, redirects, rest) ← readSimple true given
      if assignments.isEmpty && words.isEmpty && redirects.isEmpty then
        unexpected given
      else pure (.simple assignments words redirects, rest)

end

namespace Script

def parse (text : String) : Except SyntaxError Script := do
  let tokens ← tokens (text.length + 1) text.toList
  let (script, rest) ← readList (8 * tokens.length + 8) tokens
  match rest with
  | [] => pure script
  | rest => unexpected rest

end Script

end PlanGuard.Workbench.Shell
