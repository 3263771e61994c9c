import VarsAdvisor.Text.Search
import VarsAdvisor.Tool.Process

/-!
# Shell scripts

What the scripts do that wrap tools: simple commands one after the other, with quoting, parameters,
the redirections between both outputs, and the builtin commands. `Shell.run` gives the course of a
script.
-/

namespace VarsAdvisor.Shell

open VarsAdvisor.Text

/-- Where an output goes. -/
inductive Sink where
  | output
  | errors
  | nowhere
  deriving DecidableEq, Repr

/-- When a command is run, by the status of the one before it. -/
inductive Joint where
  | always
  | onSuccess
  | onFailure
  deriving DecidableEq, Repr

/-- A part of a word: a character of its own, or the status of the command before. -/
inductive Piece where
  | char (c : Char)
  | status
  deriving DecidableEq, Repr

/-- A text as pieces. -/
def Piece.ofText (text : String) : List Piece :=
  text.toList.map .char

/-- The text of a piece. -/
def Piece.text (last : Nat) : Piece → List Char
  | .char c => [c]
  | .status => (toString last).toList

/-- A command: its words, and where its outputs go. -/
structure Command where
  joint : Joint
  words : List (List Piece)
  output : Sink
  errors : Sink
  deriving Repr

/-- No words yet. -/
def Command.start (joint : Joint) : Command :=
  ⟨joint, [], .output, .errors⟩

/-- The name of a script and the arguments that it is given. -/
structure Invocation where
  name : String
  arguments : List String
  deriving Repr

/-! ## Reading -/

/-- What a parameter stands for, by the character behind its mark. -/
def Invocation.parameter? (i : Invocation) : Char → Option (List Piece)
  | '?' => some [.status]
  | '#' => some (Piece.ofText (toString i.arguments.length))
  | '@' => some (Piece.ofText (joined " " i.arguments))
  | '*' => some (Piece.ofText (joined " " i.arguments))
  | '0' => some (Piece.ofText i.name)
  | c =>
    if c.isDigit then some (Piece.ofText ((i.arguments[c.toNat - 49]?).getD "")) else none

/-- The pieces between double quotes that have been opened, latest first before `acc`, and what
follows them. -/
def readDouble (i : Invocation) (acc : List Piece) : List Char → List Piece × List Char
  | [] => (acc, [])
  | '"' :: r => (acc, r)
  | '\\' :: c :: r =>
    if c == '"' || c == '\\' || c == '$' then readDouble i (.char c :: acc) r
    else readDouble i (.char c :: .char '\\' :: acc) r
  | '$' :: c :: r =>
    match i.parameter? c with
    | some pieces => readDouble i (pieces.reverse ++ acc) r
    | none => readDouble i (.char c :: .char '$' :: acc) r
  | c :: r => readDouble i (.char c :: acc) r

/-- The state of reading a script: the word that has been begun, latest piece first, and the
command that it belongs to. -/
structure Reader where
  word : Option (List Piece)
  command : Command
  done : List Command

/-- Ends the word. -/
def Reader.endWord (s : Reader) : Reader :=
  match s.word with
  | some w =>
    { s with
      word := none
      command := { s.command with words := s.command.words ++ [w.reverse] } }
  | none => s

/-- Ends the command; the next one depends on it as `joint` says. -/
def Reader.endCommand (joint : Joint) (s : Reader) : Reader :=
  let s := s.endWord
  if s.command.words.isEmpty then { s with command := .start joint }
  else { s with command := .start joint, done := s.done ++ [s.command] }

/-- Adds a character to the word. -/
def Reader.add (c : Char) (s : Reader) : Reader :=
  { s with word := some (.char c :: s.word.getD []) }

/-- Adds pieces, latest first, to the word. -/
def Reader.addAll (pieces : List Piece) (s : Reader) : Reader :=
  { s with word := some (pieces ++ s.word.getD []) }

/-- Adds a piece that no quotes protect: a blank ends the word. -/
def Reader.addBare (s : Reader) (piece : Piece) : Reader :=
  if piece = .char ' ' ∨ piece = .char '\t' ∨ piece = .char '\n' then s.endWord
  else s.addAll [piece]

/-- Adds each argument as a word of its own; the first one joins the word that has been begun, and
the last one is still open. -/
def Reader.addArguments (s : Reader) : List String → Reader
  | [] => s
  | [last] => s.addAll (Piece.ofText last).reverse
  | a :: rest => (s.addAll (Piece.ofText a).reverse).endWord.addArguments rest

/-- Sends an output elsewhere; the number of the output is the word before, if it is one. -/
def Reader.redirect (sink : Sink) (s : Reader) : Reader :=
  if s.word = some [.char '2'] then
    { s with word := none, command := { s.command with errors := sink } }
  else
    let s := if s.word = some [.char '1'] then { s with word := none } else s.endWord
    { s with command := { s.command with output := sink } }

/-- Reads a script, at most `fuel` steps. -/
def read (i : Invocation) : Nat → Reader → List Char → List Command
  | 0, s, _ => (s.endCommand .always).done
  | _, s, [] => (s.endCommand .always).done
  | fuel + 1, s, c :: r =>
    match c, r with
    | '\'', r =>
      let (inside, rest) := r.span (· != '\'')
      read i fuel (s.addAll (inside.reverse.map .char)) (rest.drop 1)
    | '"', '$' :: '@' :: '"' :: r => read i fuel (s.addArguments i.arguments) r
    | '"', r =>
      let (inside, rest) := readDouble i [] r
      read i fuel (s.addAll inside) rest
    | '$', x :: r =>
      match i.parameter? x with
      | some pieces => read i fuel (pieces.foldl Reader.addBare s) r
      | none => read i fuel ((s.add '$').add x) r
    | '\\', x :: r => read i fuel (s.add x) r
    | '&', '&' :: r => read i fuel (s.endCommand .onSuccess) r
    | '|', '|' :: r => read i fuel (s.endCommand .onFailure) r
    | ';', r => read i fuel (s.endCommand .always) r
    | '\n', r => read i fuel (s.endCommand .always) r
    | '>', '&' :: '2' :: r => read i fuel (s.redirect .errors) r
    | '>', '&' :: '1' :: r => read i fuel (s.redirect .output) r
    | '>', r =>
      let target := (r.dropWhile (· == ' ')).dropWhile fun x => x != ' ' && x != ';' && x != '\n'
      read i fuel (s.redirect .nowhere) target
    | '#', r =>
      if s.word.isNone then read i fuel s (r.dropWhile (· != '\n'))
      else read i fuel (s.add '#') r
    | ' ', r => read i fuel s.endWord r
    | '\t', r => read i fuel s.endWord r
    | c, r => read i fuel (s.add c) r

/-- The commands of a script. -/
def commandsOf (i : Invocation) (script : String) : List Command :=
  read i (script.length + 1) ⟨none, .start .always, []⟩ script.toList

/-! ## Output of the builtin commands -/

/-- The character that a letter behind a backslash stands for. -/
def escapeOf? : Char → Option UInt8
  | 'a' => some 7
  | 'b' => some 8
  | 't' => some 9
  | 'n' => some 10
  | 'v' => some 11
  | 'f' => some 12
  | 'r' => some 13
  | '\\' => some 92
  | _ => none

/-- A digit of base eight. -/
def isOctal (c : Char) : Bool :=
  '0' ≤ c && c ≤ '7'

/-- The byte with a number in base eight. -/
def octalByte (digits : List Char) : UInt8 :=
  UInt8.ofNat (digits.foldl (fun n c => n * 8 + (c.toNat - 48)) 0)

/-- The bytes of a text with escapes. Numbers are up to `width` digits behind `mark`. -/
def unescape (mark : List Char) (width : Nat) : Nat → List Char → List UInt8
  | 0, _ => []
  | _, [] => []
  | fuel + 1, '\\' :: r =>
    let digits := ((r.drop mark.length).take width).takeWhile isOctal
    if mark.isPrefixOf r && (!digits.isEmpty || !mark.isEmpty) then
      octalByte digits :: unescape mark width fuel (r.drop (mark.length + digits.length))
    else match r with
      | c :: rest => match escapeOf? c with
        | some b => b :: unescape mark width fuel rest
        | none => 92 :: unescape mark width fuel r
      | [] => [92]
  | fuel + 1, c :: r => Utf8.encodeChar c ++ unescape mark width fuel r

/-- What `echo` writes. -/
def echoBytes (words : List String) : List UInt8 :=
  let (words, last) := match words with
    | "-n" :: rest => (rest, [])
    | ws => (ws, [(10 : UInt8)])
  let text := (joined " " words).toList
  unescape ['0'] 3 (text.length + 1) text ++ last

/-- A format with the words put in, and the words that are left. -/
def fillIn : Nat → List Char → List String → List UInt8 × List String
  | 0, _, words => ([], words)
  | _, [], words => ([], words)
  | fuel + 1, '%' :: c :: r, words =>
    if c = '%' then
      let (bs, words) := fillIn fuel r words
      (37 :: bs, words)
    else
      let word := words.headD (if c = 'd' || c = 'i' then "0" else "")
      let (bs, left) := fillIn fuel r (words.drop 1)
      (Utf8.bytesOf word ++ bs, left)
  | fuel + 1, cs, words =>
    let (piece, rest) := cs.span (· != '%')
    if piece.isEmpty then (Utf8.encode cs, words)
    else
      let (bs, left) := fillIn fuel rest words
      (unescape [] 3 (piece.length + 1) piece ++ bs, left)

/-- What `printf` writes: the format once, and again as long as words are left for it. -/
def printfBytes (format : List Char) : Nat → List String → List UInt8
  | 0, _ => []
  | fuel + 1, words =>
    let (bs, left) := fillIn (format.length + 1) format words
    if left.isEmpty || left.length == words.length then bs
    else bs ++ printfBytes format fuel left

/-! ## Running -/

/-- How things go on after a command: with its status, or not at all. -/
inductive Flow where
  | next (status : Nat)
  | stop (exit : Exit)
  deriving DecidableEq, Repr

/-- What a command writes, how things go on, and how long it takes. -/
structure Effect where
  stdout : List UInt8
  stderr : List UInt8
  flow : Flow
  nanoseconds : Nat
  deriving Repr

/-- An effect without output. -/
def Effect.silent (flow : Flow) : Effect :=
  ⟨[], [], flow, 0⟩

/-- The signals by name. -/
def signalNames : List (String × Nat) :=
  [("HUP", 1), ("INT", 2), ("QUIT", 3), ("ILL", 4), ("ABRT", 6), ("FPE", 8), ("KILL", 9),
    ("USR1", 10), ("SEGV", 11), ("USR2", 12), ("PIPE", 13), ("ALRM", 14), ("TERM", 15)]

/-- The signal of a name or number. -/
def signalOf (text : String) : Nat :=
  match signalNames.lookup text with
  | some n => n
  | none => (text.toNat?).getD 15

/-- The signal that `kill` sends. -/
def killSignal : List String → Nat
  | "-s" :: name :: _ => signalOf name
  | option :: _ =>
    match option.toList with
    | '-' :: name => signalOf (String.ofList name)
    | _ => 15
  | [] => 15

/-- Nanoseconds in a number of seconds, of digits with at most one point. -/
def nanosecondsOf (text : String) : Nat :=
  let (whole, rest) := text.toList.span Char.isDigit
  let fraction := ((rest.drop 1).takeWhile Char.isDigit).take 9
  let value := (whole ++ fraction).foldl (fun n c => n * 10 + (c.toNat - 48)) 0
  value * Nat.pow 10 (9 - fraction.length)

/-- The effect of a command. -/
def perform (shellName : String) (last : Nat) (words : List String) : Effect :=
  match words with
  | [] => .silent (.next 0)
  | "exec" :: rest => match rest with
    | "sleep" :: times =>
      ⟨[], [], .stop (.status 0), (times.map nanosecondsOf).foldl (· + ·) 0⟩
    | [] => .silent (.next 0)
    | _ => .silent (.stop (.status 127))
  | ":" :: _ => .silent (.next 0)
  | "true" :: _ => .silent (.next 0)
  | ["cat"] => .silent (.next 0)
  | "false" :: _ => .silent (.next 1)
  | "exit" :: args =>
    .silent (.stop (.status (((args.head?.bind String.toNat?).getD last) % 256)))
  | "echo" :: args => ⟨echoBytes args, [], .next 0, 0⟩
  | "printf" :: args => match args with
    | format :: args =>
      ⟨printfBytes format.toList (args.length + 1) args, [], .next 0, 0⟩
    | [] => .silent (.next 2)
  | "kill" :: args =>
    if args.contains "$$" then
      let signal := killSignal args
      .silent (if signal = 0 then .next 0 else .stop (.signal signal))
    else .silent (.next 1)
  | "sleep" :: times => ⟨[], [], .next 0, (times.map nanosecondsOf).foldl (· + ·) 0⟩
  | name :: _ => ⟨[], Utf8.bytesOf s!"{shellName}: 1: {name}: not found\n", .next 127, 0⟩

/-- Sends both outputs of a command where they belong. -/
def route (c : Command) (e : Effect) : Effect :=
  let sentTo (sink : Sink) : List UInt8 :=
    (if c.output = sink then e.stdout else []) ++ (if c.errors = sink then e.stderr else [])
  { e with stdout := sentTo .output, stderr := sentTo .errors }

/-- The command is run after a status. -/
def Joint.allows (joint : Joint) (status : Nat) : Bool :=
  match joint with
  | .always => true
  | .onSuccess => status == 0
  | .onFailure => status != 0

/-- Runs commands after a status. -/
def runCommands (shellName : String) (last : Nat) : List Command → Course
  | [] => ⟨[], [], .status last, 0⟩
  | c :: rest =>
    if c.joint.allows last then
      let words := c.words.map fun w => String.ofList (w.flatMap (Piece.text last))
      let e := route c (perform shellName last words)
      match e.flow with
      | .stop exit => ⟨e.stdout, e.stderr, exit, e.nanoseconds⟩
      | .next status =>
        let more := runCommands shellName status rest
        ⟨e.stdout ++ more.stdout, e.stderr ++ more.stderr, more.exit,
          e.nanoseconds + more.nanoseconds⟩
    else runCommands shellName last rest

/-- The course of a script that is given arguments. -/
def run (i : Invocation) (script : String) : Course :=
  runCommands i.name 0 (commandsOf i script)

end VarsAdvisor.Shell
