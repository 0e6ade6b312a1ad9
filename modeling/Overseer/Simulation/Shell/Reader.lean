import Overseer.Simulation.Shell.Tree
import Overseer.Text.Blank

/-!
Reading scripts. A script is read line by line, so that a fault in a later line does not keep the
earlier ones from running; a line goes on as long as a quote or a compound command is open. The
texts of documents stand behind the line that announces them.
-/

namespace Overseer.Simulation.Shell

structure ReadError where
  line : Nat
  reason : String
  deriving DecidableEq, Repr, Inhabited

structure Announced where
  id : Nat
  delimiter : List Char
  literal : Bool
  stripped : Bool
  deriving DecidableEq, Repr, Inhabited

structure Source where
  rest : List Char
  line : Nat
  awaited : List Announced
  documents : List (Nat × Word)
  nextId : Nat
  deriving Inhabited

namespace Source

def ofText (text : List Char) (nextId : Nat) : Source := ⟨text, 1, [], [], nextId⟩

def goto (s : Source) (rest : List Char) : Source := { s with rest }

def nextLine (s : Source) (rest : List Char) : Source := { s with rest, line := s.line + 1 }

def behind (s : Source) (text rest : List Char) : Source :=
  { s with rest, line := s.line + text.count '\n' }

def fail {α : Type} (s : Source) (reason : String) : Except ReadError α := .error ⟨s.line, reason⟩

def adopt (s other : Source) : Source :=
  { s with documents := other.documents, nextId := other.nextId }

end Source

/-! ## Tokens -/

inductive Token where
  | word (w : Word)
  | keyword (k : String)
  | op (s : String)
  | newline
  | finish
  | redirect (stream : Option Nat) (operator : String)
  deriving Inhabited

def operators : List String := ["&&", "||", ";;", ";", "&", "|", "(", ")"]

def redirections : List String := ["<<-", "<<", ">>", ">&", "<&", "<>", ">|", ">", "<"]

def keywords : List String :=
  ["!", "case", "do", "done", "elif", "else", "esac", "fi", "for", "if", "in", "then", "until",
    "while", "\x7b", "\x7d"]

def Token.name : Token → String
  | word _ => "word"
  | keyword k => s!"\"{k}\""
  | op s => s!"\"{s}\""
  | newline => "newline"
  | finish => "end of file"
  | redirect _ _ => "redirection"

def Token.isKeyword (k : String) : Token → Bool
  | keyword j => j == k
  | _ => false

def Token.isOp (o : String) : Token → Bool
  | op s => s == o
  | _ => false

def Token.endsList : Token → Bool
  | op s => s == ")" || s == ";;"
  | keyword k => ["\x7d", "do", "done", "elif", "else", "esac", "fi", "then"].contains k
  | finish => true
  | _ => false

def unexpected (t : Token) (wanted : Option String) : String :=
  s!"Syntax error: {t.name} unexpected" ++
    match wanted with
    | some w => s!" (expecting {w})"
    | none => ""

def takeOperator (names : List String) (s : List Char) : Option (String × List Char) :=
  (names.find? fun n => n.toList.isPrefixOf s).map fun n => (n, s.drop n.length)

def isOperatorChar (c : Char) : Bool := ";&|()<>".toList.contains c

def endsWord (c : Char) : Bool := c == ' ' || c == '\t' || c == '\n' || isOperatorChar c

def skipBlanks (s : Source) : Source :=
  go s.rest.length s
where
  go : Nat → Source → Source
    | 0, s => s
    | fuel + 1, s =>
        match s.rest with
        | '\\' :: '\n' :: rest => go fuel (s.nextLine rest)
        | c :: rest =>
            if c = ' ' || c = '\t' then go fuel (s.goto rest)
            else if c = '#' then s.goto (rest.dropWhile (· != '\n'))
            else s
        | [] => s

/-! ## Words -/

/-- Where a part of a word stands, and with that how it ends. -/
inductive Setting where
  | bare
  | double
  | brace (quoted : Bool)
  | sum (depth : Nat)
  | document
  deriving DecidableEq, Repr

def Setting.quotes : Setting → Bool
  | bare | brace false => false
  | _ => true

def backquote : Char := Char.ofNat 0x60

def addText (t : List Char) (quoted : Bool) : Word → Word
  | .text s q :: rest =>
      if q = quoted then .text (s ++ t) q :: rest else .text t quoted :: .text s q :: rest
  | w => .text t quoted :: w

def isOrdinary (setting : Setting) (c : Char) : Bool :=
  c != '\\' && c != '$' && c != backquote && c != '"' && c != '\'' && c != '\x7d' &&
    c != '(' && c != ')' && (setting != .bare || !endsWord c)

def isEscapable (setting : Setting) (c : Char) : Bool :=
  match setting with
  | .bare | .brace false => true
  | .double => c == '$' || c == backquote || c == '\\' || c == '"'
  | .brace true => c == '$' || c == backquote || c == '\\' || c == '"' || c == '\x7d'
  | .sum _ | .document => c == '$' || c == backquote || c == '\\'

def takeBackquoted (quoted : Bool) : List Char → List Char → Option (List Char × List Char)
  | _, [] => none
  | acc, '\\' :: c :: rest =>
      if c = backquote || c = '\\' || c = '$' || (quoted && c = '"') then
        takeBackquoted quoted (c :: acc) rest
      else takeBackquoted quoted (c :: '\\' :: acc) rest
  | acc, c :: rest =>
      if c = backquote then some (acc.reverse, rest) else takeBackquoted quoted (c :: acc) rest

def isSpecialParam (c : Char) : Bool := "@*#?-$!0123456789".toList.contains c

def takeUse (s : List Char) : ParamUse × List Char :=
  let byWord (orEmpty : Bool) : List Char → Option (ParamUse × List Char)
    | '-' :: r => some (.default orEmpty, r)
    | '+' :: r => some (.alternative orEmpty, r)
    | '?' :: r => some (.fail orEmpty, r)
    | '=' :: r => some (.assign orEmpty, r)
    | _ => none
  match s with
  | '\x7d' :: _ => (.plain, s)
  | '#' :: '#' :: r => (.trim true true, r)
  | '#' :: r => (.trim true false, r)
  | '%' :: '%' :: r => (.trim false true, r)
  | '%' :: r => (.trim false false, r)
  | ':' :: r => (byWord true r).getD (.bad, r)
  | s => (byWord false s).getD (.bad, s)

def takeParam (s : List Char) : String × ParamUse × List Char :=
  let name (s : List Char) : Option (String × List Char) :=
    match s with
    | c :: rest =>
        if isNameStart c then
          let (n, rest) := takeName s
          some (String.ofList n, rest)
        else if c.isDigit then
          some (String.ofList (s.takeWhile Char.isDigit), s.dropWhile Char.isDigit)
        else if isSpecialParam c then some (String.ofList [c], rest)
        else none
    | [] => none
  let measured : Option (String × List Char) :=
    match s with
    | '#' :: rest =>
        match name rest with
        | some (n, '\x7d' :: rest) => some (n, '\x7d' :: rest)
        | _ => none
    | _ => none
  match measured with
  | some (n, rest) => (n, .length, rest)
  | none =>
      match name s with
      | some (n, rest) =>
          let (use, rest) := takeUse rest
          (n, use, rest)
      | none => ("", .bad, s)

def assignment? : Word → Option (String × Word)
  | .text s false :: rest =>
      match takeName s with
      | ([], _) => none
      | (name, '=' :: value) =>
          some (String.ofList name, if value.isEmpty then rest else .text value false :: rest)
      | _ => none
  | _ => none

def delimiterOf (w : Word) : List Char × Bool :=
  (w.flatMap fun p => match p with
    | .text s _ => s
    | .param name _ _ _ => '$' :: name.toList
    | _ => [], w.any fun p => match p with
    | .text _ q => q
    | _ => false)

def takeDocument (a : Announced) : Nat → List Char → List Char × List Char
  | 0, s => ([], s)
  | fuel + 1, s =>
      if s.isEmpty then ([], [])
      else
        let line := s.takeWhile (· != '\n')
        let rest := (s.dropWhile (· != '\n'))
        let shown := if a.stripped then line.dropWhile (· == '\t') else line
        if shown = a.delimiter then ([], rest.drop 1)
        else
          let (more, behind) := takeDocument a fuel (rest.drop 1)
          (shown ++ rest.take 1 ++ more, behind)

def specialCommands : List String :=
  [".", ":", "break", "continue", "eval", "exec", "exit", "export", "readonly", "return", "set",
    "shift", "times", "trap", "unset"]

def defaultStream (operator : String) : Nat := if operator.startsWith "<" then 0 else 1

mutual

def readParts : Nat → Setting → Word → Source → Except ReadError (Word × Source)
  | 0, _, _, s => s.fail "Syntax error: nested too deeply"
  | fuel + 1, setting, acc, s =>
      let quoted := setting.quotes
      match s.rest with
      | [] =>
          match setting with
          | .bare | .document => .ok (acc.reverse, s)
          | .double => s.fail "Syntax error: Unterminated quoted string"
          | .brace _ => s.fail "Syntax error: Missing '\x7d'"
          | .sum _ => s.fail "Syntax error: Missing '))'"
      | '\\' :: rest =>
          match rest with
          | '\n' :: rest => readParts fuel setting acc (s.nextLine rest)
          | c :: rest' =>
              if isEscapable setting c then
                readParts fuel setting (addText [c] true acc) (s.goto rest')
              else readParts fuel setting (addText ['\\'] true acc) (s.goto rest)
          | [] => readParts fuel setting (addText ['\\'] true acc) (s.goto rest)
      | '$' :: rest => do
          let (part, s) ← readDollar fuel quoted (s.goto rest)
          readParts fuel setting (part :: acc) s
      | c :: rest =>
          if c = backquote then
            match takeBackquoted (setting = .double) [] rest with
            | none =>
                (s.behind rest []).fail "Syntax error: EOF in backquote substitution"
            | some (script, rest) => do
                let (body, inner) ← readWhole fuel { Source.ofText script s.nextId with
                  documents := s.documents }
                readParts fuel setting (.output body quoted :: acc)
                  ((s.behind script rest).adopt inner)
          else if c = '\'' && !quoted then
            let text := rest.takeWhile (· != '\'')
            match rest.dropWhile (· != '\'') with
            | [] => (s.behind text []).fail "Syntax error: Unterminated quoted string"
            | _ :: rest =>
                readParts fuel setting (.text [] false :: .text text true :: acc)
                  (s.behind text rest)
          else if c = '"' && setting != .document then
            match setting with
            | .double => .ok (acc.reverse, s.goto rest)
            | .sum _ => readParts fuel setting acc (s.goto rest)
            | _ => do
                let (parts, s) ← readParts fuel .double [.text [] true] (s.goto rest)
                readParts fuel setting (.text [] false :: parts.reverse ++ acc) s
          else
            match setting, c with
            | .brace _, '\x7d' => .ok (acc.reverse, s.goto rest)
            | .sum depth, '(' =>
                readParts fuel (.sum (depth + 1)) (addText [c] true acc) (s.goto rest)
            | .sum 0, ')' =>
                match rest with
                | ')' :: rest => .ok (acc.reverse, s.goto rest)
                | rest => readParts fuel setting (addText [c] true acc) (s.goto rest)
            | .sum (depth + 1), ')' =>
                readParts fuel (.sum depth) (addText [c] true acc) (s.goto rest)
            | _, _ =>
                if setting = .bare && endsWord c then .ok (acc.reverse, s)
                else
                  let more := rest.takeWhile (isOrdinary setting)
                  readParts fuel setting (addText (c :: more) quoted acc)
                    (s.behind (c :: more) (rest.drop more.length))

def readDollar : Nat → Bool → Source → Except ReadError (Part × Source)
  | 0, _, s => s.fail "Syntax error: nested too deeply"
  | fuel + 1, quoted, s =>
      match s.rest with
      | '(' :: '(' :: rest => do
          let (expression, s) ← readParts fuel (.sum 0) [] (s.goto rest)
          return (.arithmetic expression quoted, s)
      | '(' :: rest => do
          let (body, s) ← readList fuel false true .nothing (s.goto rest)
          let (t, after) ← readToken fuel true true s
          if t.isOp ")" then return (.output body quoted, after)
          else after.fail (unexpected t (some "\")\""))
      | '\x7b' :: rest => do
          let (name, use, rest) := takeParam rest
          let quotedWord := match use with
            | .trim _ _ => false
            | _ => quoted
          let (word, s) ← readParts fuel (.brace quotedWord) [] (s.goto rest)
          let use := if use = .length && !word.isEmpty then .bad else use
          return (.param name use word quoted, s)
      | c :: rest =>
          if isNameStart c then
            let (name, rest) := takeName (c :: rest)
            .ok (.param (String.ofList name) .plain [] quoted, s.goto rest)
          else if isSpecialParam c then
            .ok (.param (String.ofList [c]) .plain [] quoted, s.goto rest)
          else .ok (.text ['$'] quoted, s)
      | [] => .ok (.text ['$'] quoted, s)

def readDocuments : Nat → Source → Except ReadError Source
  | 0, s => .ok s
  | fuel + 1, s =>
      match s.awaited with
      | [] => .ok s
      | a :: more => do
          let (text, rest) := takeDocument a (s.rest.length + 1) s.rest
          let used := s.rest.take (s.rest.length - rest.length)
          let here := { s.behind used rest with awaited := more }
          if a.literal then
            readDocuments fuel { here with
              documents := (a.id, [.text text true]) :: here.documents }
          else
            let (w, inner) ← readParts fuel .document []
              { s with rest := text, awaited := [] }
            let here := here.adopt inner
            readDocuments fuel { here with documents := (a.id, w) :: here.documents }

def readToken : Nat → Bool → Bool → Source → Except ReadError (Token × Source)
  | 0, _, _, s => s.fail "Syntax error: nested too deeply"
  | fuel + 1, keyed, lines, s =>
      let s := skipBlanks s
      match s.rest with
      | [] => do return (.finish, ← readDocuments fuel s)
      | '\n' :: rest => do
          let s ← readDocuments fuel (s.nextLine rest)
          if lines then readToken fuel keyed lines s else return (.newline, s)
      | c :: rest =>
          let numbered : Option (Nat × String × List Char) :=
            if c.isDigit then
              (takeOperator redirections rest).map fun (o, rest) => (c.toNat - '0'.toNat, o, rest)
            else none
          match numbered with
          | some (n, o, rest) => .ok (.redirect (some n) o, s.goto rest)
          | none =>
              match takeOperator redirections (c :: rest) with
              | some (o, rest) => .ok (.redirect none o, s.goto rest)
              | none =>
                  match takeOperator operators (c :: rest) with
                  | some (o, rest) => .ok (.op o, s.goto rest)
                  | none => do
                      let (w, s) ← readParts fuel .bare [] s
                      match plain? w with
                      | some k =>
                          if keyed && keywords.contains k then return (.keyword k, s)
                          else return (.word w, s)
                      | none => return (.word w, s)

def readRedirect : Nat → Option Nat → String → Source → Except ReadError (Redirect × Source)
  | 0, _, _, s => s.fail "Syntax error: nested too deeply"
  | fuel + 1, stream, operator, s => do
      let n := stream.getD (defaultStream operator)
      match ← readToken fuel false false s with
      | (.word w, s) =>
          match operator with
          | "<" => return (.file n .read w, s)
          | ">>" => return (.file n .append w, s)
          | "<>" => return (.file n .both w, s)
          | ">&" | "<&" => return (.copy n w, s)
          | "<<" | "<<-" =>
              let (delimiter, literal) := delimiterOf w
              let a : Announced := ⟨s.nextId, delimiter, literal, operator == "<<-"⟩
              return (.document n a.id,
                { s with awaited := s.awaited ++ [a], nextId := s.nextId + 1 })
          | _ => return (.file n .write w, s)
      | (t, s) => s.fail (unexpected t none)

def readRedirects : Nat → List Redirect → Source → Except ReadError (List Redirect × Source)
  | 0, _, s => s.fail "Syntax error: nested too deeply"
  | fuel + 1, acc, s => do
      match ← readToken fuel true false s with
      | (.redirect stream operator, after) =>
          let (r, s) ← readRedirect fuel stream operator after
          readRedirects fuel (r :: acc) s
      | _ => return (acc.reverse, s)

/-- Reads commands. On the level of lines the list ends with its line, else before what closes it;
`open_` tells whether it may be empty. -/
def readList : Nat → Bool → Bool → Tree → Source → Except ReadError (Tree × Source)
  | 0, _, _, _, s => s.fail "Syntax error: nested too deeply"
  | fuel + 1, byLine, open_, acc, s => do
      let (t, after) ← readToken fuel true (!byLine) s
      match t with
      | .newline => return (acc, after)
      | .finish => return (acc, after)
      | t =>
          if open_ && !byLine && t.endsList then return (acc, s)
          let (first, s) ← readAndOr fuel (!byLine) s
          let join (n : Tree) : Tree := match acc with
            | .nothing => n
            | acc => .seq acc n
          let (t, after) ← readToken fuel true false s
          match t with
          | .op "&" => readList fuel byLine true (join (.background first)) after
          | .op ";" => readList fuel byLine true (join first) after
          | .newline => readList fuel byLine true (join first) s
          | .finish => return (join first, after)
          | t => if byLine then after.fail (unexpected t none) else return (join first, s)

def readWhole : Nat → Source → Except ReadError (Tree × Source)
  | 0, s => s.fail "Syntax error: nested too deeply"
  | fuel + 1, s => do
      let (body, s) ← readList fuel false true .nothing s
      match ← readToken fuel true true s with
      | (.finish, s) => return (body, s)
      | (t, s) => s.fail (unexpected t none)

def readAndOr : Nat → Bool → Source → Except ReadError (Tree × Source)
  | 0, _, s => s.fail "Syntax error: nested too deeply"
  | fuel + 1, lines, s => do
      let (first, s) ← readPipeline fuel lines s
      readAndOrRest fuel first s

def readAndOrRest : Nat → Tree → Source → Except ReadError (Tree × Source)
  | 0, _, s => s.fail "Syntax error: nested too deeply"
  | fuel + 1, first, s => do
      match ← readToken fuel true false s with
      | (.op "&&", after) =>
          let (next, s) ← readPipeline fuel true after
          readAndOrRest fuel (.both first next) s
      | (.op "||", after) =>
          let (next, s) ← readPipeline fuel true after
          readAndOrRest fuel (.either first next) s
      | _ => return (first, s)

def readPipeline : Nat → Bool → Source → Except ReadError (Tree × Source)
  | 0, _, s => s.fail "Syntax error: nested too deeply"
  | fuel + 1, lines, s => do
      let plain (lines : Bool) (s : Source) : Except ReadError (Tree × Source) := do
        let (first, s) ← readCommand fuel lines s
        let (stages, s) ← readStages fuel [first] s
        match stages with
        | [only] => return (only, s)
        | stages => return (.pipe stages, s)
      match ← readToken fuel true lines s with
      | (.keyword "!", after) =>
          let (body, s) ← plain false after
          return (.not body, s)
      | _ => plain lines s

def readStages : Nat → List Tree → Source → Except ReadError (List Tree × Source)
  | 0, _, s => s.fail "Syntax error: nested too deeply"
  | fuel + 1, acc, s => do
      match ← readToken fuel true false s with
      | (.op "|", after) =>
          let (next, s) ← readCommand fuel true after
          readStages fuel (next :: acc) s
      | _ => return (acc.reverse, s)

def readCommand : Nat → Bool → Source → Except ReadError (Tree × Source)
  | 0, _, s => s.fail "Syntax error: nested too deeply"
  | fuel + 1, lines, s => do
      let (t, after) ← readToken fuel true lines s
      let line := after.line
      let wrapped (body : Tree) (s : Source) : Except ReadError (Tree × Source) := do
        let (redirects, s) ← readRedirects fuel [] s
        match redirects with
        | [] => return (body, s)
        | redirects => return (.redirected line body redirects, s)
      match t with
      | .keyword "\x7b" =>
          let (body, s) ← readList fuel false false .nothing after
          let s ← readKeyword fuel "\x7d" s
          wrapped body s
      | .keyword "if" =>
          let (body, s) ← readIf fuel after
          wrapped body s
      | .keyword "while" =>
          let (body, s) ← readLoop fuel true after
          wrapped body s
      | .keyword "until" =>
          let (body, s) ← readLoop fuel false after
          wrapped body s
      | .keyword "for" =>
          let (body, s) ← readFor fuel line after
          wrapped body s
      | .keyword "case" =>
          let (body, s) ← readCase fuel line after
          wrapped body s
      | .op "(" =>
          let (body, s) ← readList fuel false false .nothing after
          let (t, after) ← readToken fuel true true s
          if !t.isOp ")" then after.fail (unexpected t (some "\")\""))
          let (redirects, s) ← readRedirects fuel [] after
          return (.subshell line body redirects, s)
      | .word _ | .redirect _ _ =>
          let start ← if lines then skipLines fuel s else pure s
          readSimple fuel line [] [] [] start
      | t => after.fail (unexpected t none)

def skipLines : Nat → Source → Except ReadError Source
  | 0, s => .ok s
  | fuel + 1, s => do
      match ← readToken fuel false false s with
      | (.newline, after) => skipLines fuel after
      | _ => return s

def readKeyword : Nat → String → Source → Except ReadError Source
  | 0, _, s => s.fail "Syntax error: nested too deeply"
  | fuel + 1, k, s => do
      let (t, after) ← readToken fuel true true s
      if t.isKeyword k then return after
      else after.fail (unexpected t (some s!"\"{k}\""))

def readSimple : Nat → Nat → List (String × Word) → List Word → List Redirect → Source →
    Except ReadError (Tree × Source)
  | 0, _, _, _, _, s => s.fail "Syntax error: nested too deeply"
  | fuel + 1, line, assignments, words, redirects, s => do
      let (t, after) ← readToken fuel false false s
      match t with
      | .word w =>
          match words, assignment? w with
          | [], some a => readSimple fuel line (a :: assignments) words redirects after
          | _, _ => readSimple fuel line assignments (w :: words) redirects after
      | .redirect stream operator =>
          let (r, s) ← readRedirect fuel stream operator after
          readSimple fuel line assignments words (r :: redirects) s
      | t =>
          let done := (Tree.simple line assignments.reverse words.reverse redirects.reverse, s)
          match t.isOp "(", assignments, words, redirects with
          | true, [], [w], [] =>
              let (t, after) ← readToken fuel false false after
              if !t.isOp ")" then after.fail (unexpected t (some "\")\""))
              let name := ((plain? w).getD "")
              if !isName name.toList || specialCommands.contains name then
                after.fail "Syntax error: Bad function name"
              let (body, s) ← readCommand fuel true after
              return (.define name body, s)
          | _, _, _, _ => return done

def readIf : Nat → Source → Except ReadError (Tree × Source)
  | 0, s => s.fail "Syntax error: nested too deeply"
  | fuel + 1, s => do
      let (condition, s) ← readList fuel false false .nothing s
      let s ← readKeyword fuel "then" s
      let (yes, s) ← readList fuel false false .nothing s
      match ← readToken fuel true true s with
      | (.keyword "elif", after) =>
          let (no, s) ← readIf fuel after
          return (.choose condition yes no, s)
      | (.keyword "else", after) =>
          let (no, s) ← readList fuel false false .nothing after
          return (.choose condition yes no, ← readKeyword fuel "fi" s)
      | _ => return (.choose condition yes .nothing, ← readKeyword fuel "fi" s)

def readLoop : Nat → Bool → Source → Except ReadError (Tree × Source)
  | 0, _, s => s.fail "Syntax error: nested too deeply"
  | fuel + 1, on, s => do
      let (condition, s) ← readList fuel false false .nothing s
      let (body, s) ← readBody fuel s
      return (.loop on condition body, s)

def readBody : Nat → Source → Except ReadError (Tree × Source)
  | 0, s => s.fail "Syntax error: nested too deeply"
  | fuel + 1, s => do
      let s ← readKeyword fuel "do" s
      let (body, s) ← readList fuel false false .nothing s
      return (body, ← readKeyword fuel "done" s)

def readFor : Nat → Nat → Source → Except ReadError (Tree × Source)
  | 0, _, s => s.fail "Syntax error: nested too deeply"
  | fuel + 1, line, s => do
      let (t, after) ← readToken fuel false false s
      let name := match t with
        | .word w => (plain? w).getD ""
        | _ => ""
      if !isName name.toList then after.fail "Syntax error: Bad for loop variable"
      let (t, behind) ← readToken fuel true true after
      if t.isKeyword "in" then
        let (words, s) ← readWords fuel [] behind
        let (t, after) ← readToken fuel false false s
        match t with
        | .newline | .op ";" =>
            let (body, s) ← readBody fuel after
            return (.each line name words body, s)
        | t => after.fail (unexpected t none)
      else
        let start := if t.isOp ";" then behind else after
        let (body, s) ← readBody fuel start
        return (.each line name [[.param "@" .plain [] true]] body, s)

def readWords : Nat → List Word → Source → Except ReadError (List Word × Source)
  | 0, _, s => s.fail "Syntax error: nested too deeply"
  | fuel + 1, acc, s => do
      match ← readToken fuel false false s with
      | (.word w, after) => readWords fuel (w :: acc) after
      | _ => return (acc.reverse, s)

def readCase : Nat → Nat → Source → Except ReadError (Tree × Source)
  | 0, _, s => s.fail "Syntax error: nested too deeply"
  | fuel + 1, line, s => do
      match ← readToken fuel false false s with
      | (.word subject, s) =>
          let s ← readKeyword fuel "in" s
          let (branches, s) ← readBranches fuel [] s
          return (.select line subject branches, s)
      | (t, s) => s.fail (unexpected t (some "word"))

def readBranches : Nat → List (List Word × Tree) → Source →
    Except ReadError (List (List Word × Tree) × Source)
  | 0, _, s => s.fail "Syntax error: nested too deeply"
  | fuel + 1, acc, s => do
      let (t, after) ← readToken fuel true true s
      if t.isKeyword "esac" then return (acc.reverse, after)
      let s := if t.isOp "(" then after else s
      let (patterns, s) ← readPatterns fuel [] s
      let (body, s) ← readList fuel false true .nothing s
      let (t, after) ← readToken fuel true true s
      if t.isKeyword "esac" then return (((patterns, body) :: acc).reverse, after)
      else if t.isOp ";;" then readBranches fuel ((patterns, body) :: acc) after
      else after.fail (unexpected t (some "\";;\""))

def readPatterns : Nat → List Word → Source → Except ReadError (List Word × Source)
  | 0, _, s => s.fail "Syntax error: nested too deeply"
  | fuel + 1, acc, s => do
      match ← readToken fuel false true s with
      | (.word w, s) =>
          match ← readToken fuel false false s with
          | (.op "|", s) => readPatterns fuel (w :: acc) s
          | (.op ")", s) => return ((w :: acc).reverse, s)
          | (t, s) => s.fail (unexpected t (some "\")\""))
      | (_, s) =>
          let (t, s) ← readToken fuel false false s
          s.fail (unexpected t (some "\")\""))

end

def Source.readLine (s : Source) : Except ReadError (Option (Tree × Source)) := do
  if s.rest.isEmpty then return none
  else
    let fuel := 16 * s.rest.length + 100
    let (tree, s) ← readList fuel true true .nothing s
    return some (tree, s)

end Overseer.Simulation.Shell
