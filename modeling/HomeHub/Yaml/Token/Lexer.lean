import HomeHub.Yaml.Token.Block
import HomeHub.Yaml.Token.Plain
import HomeHub.Yaml.Token.Quoted
import HomeHub.Yaml.Token.Tag

/-!
The tokens of a text. Indentation opens and closes blocks, and a colon turns what stands before it
on the same line into a key, for which a token is put in later.
-/

namespace HomeHub.Yaml

structure Candidate where
  place : Nat
  start : Cursor
  required : Bool

def longestKey : Nat := 1024

def Candidate.isStale (candidate : Candidate) (cursor : Cursor) : Bool :=
  candidate.start.line < cursor.line || candidate.start.index + longestKey < cursor.index

structure Lexer where
  cursor : Cursor
  tokens : Array Token := #[]
  indent : Int := -1
  outer : List Int := []
  candidate : Option Candidate := none
  outerCandidates : List (Option Candidate) := []
  keyAllowed : Bool := true

namespace Lexer

def inFlow (lexer : Lexer) : Bool :=
  !lexer.outerCandidates.isEmpty

def push (lexer : Lexer) (token : Token) : Lexer :=
  { lexer with tokens := lexer.tokens.push token }

def insertAt (lexer : Lexer) (place : Nat) (token : Token) : Lexer :=
  let tokens := lexer.tokens
  { lexer with tokens := (tokens.extract 0 place).push token ++ tokens.extract place tokens.size }

def moveTo (lexer : Lexer) (cursor : Cursor) : Lexer :=
  { lexer with cursor }

def allowKey (lexer : Lexer) (allowed : Bool) : Lexer :=
  { lexer with keyAllowed := allowed }

/-! ### Keys -/

def freshen? (cursor : Cursor) : Option Candidate → Option (Option Candidate)
  | some candidate =>
    if candidate.isStale cursor then if candidate.required then none else some none
    else some (some candidate)
  | none => some none

def dropStale? (lexer : Lexer) : Option Lexer := do
  let candidate ← freshen? lexer.cursor lexer.candidate
  let outerCandidates ← lexer.outerCandidates.mapM (freshen? lexer.cursor)
  return { lexer with candidate, outerCandidates }

def dropCandidate? (lexer : Lexer) : Option Lexer :=
  if lexer.candidate.any (·.required) then none else some { lexer with candidate := none }

def noteCandidate? (lexer : Lexer) : Option Lexer :=
  if lexer.keyAllowed then do
    let required := !lexer.inFlow && lexer.indent == lexer.cursor.column
    let lexer ← lexer.dropCandidate?
    return { lexer with candidate := some ⟨lexer.tokens.size, lexer.cursor, required⟩ }
  else some lexer

/-! ### Blocks -/

def closeBlocks (column : Int) : Nat → Lexer → Lexer
  | 0, lexer => lexer
  | fuel + 1, lexer =>
    if column < lexer.indent then
      closeBlocks column fuel
        { lexer.push .blockEnd with indent := lexer.outer.headD (-1), outer := lexer.outer.tail }
    else lexer

def unroll (lexer : Lexer) (column : Int) : Lexer :=
  if lexer.inFlow then lexer else closeBlocks column (lexer.outer.length + 1) lexer

def roll (lexer : Lexer) (column place : Nat) (token : Token) : Lexer :=
  if !lexer.inFlow && lexer.indent < column then
    { lexer.insertAt place token with indent := column, outer := lexer.indent :: lexer.outer }
  else lexer

def rollHere (lexer : Lexer) (token : Token) : Lexer :=
  lexer.roll lexer.cursor.column lexer.tokens.size token

/-! ### Single tokens -/

def skipToToken : Nat → Lexer → Lexer
  | 0, lexer => lexer
  | fuel + 1, lexer =>
    let start := lexer.cursor
    -- A mark of byte order takes up a column like any other character.
    let cursor := if start.column == 0 && start.isAt byteOrderMark then start.skip else start
    let tabs := lexer.inFlow || !lexer.keyAllowed
    let cursor := (cursor.skipWhile fun c => c == ' ' || (tabs && c == '\t')).skipComment
    if cursor.sees 0 isBreak then
      skipToToken fuel
        { lexer with cursor := cursor.takeBreak.2, keyAllowed := lexer.keyAllowed || !lexer.inFlow }
    else lexer.moveTo cursor

def outermost? (lexer : Lexer) (token : Token) (cursor : Cursor) : Option Lexer := do
  let lexer ← (lexer.unroll (-1)).dropCandidate?
  return ((lexer.allowKey false).push token).moveTo cursor

def openFlow? (lexer : Lexer) (token : Token) : Option Lexer := do
  let lexer ← lexer.noteCandidate?
  let lexer := ((lexer.allowKey true).push token).moveTo lexer.cursor.skip
  let outerCandidates := lexer.candidate :: lexer.outerCandidates
  return { lexer with candidate := none, outerCandidates }

def closeFlow? (lexer : Lexer) (token : Token) : Option Lexer := do
  let lexer ← lexer.dropCandidate?
  let lexer := ((lexer.allowKey false).push token).moveTo lexer.cursor.skip
  match lexer.outerCandidates with
  | [] => return lexer
  | candidate :: outerCandidates => return { lexer with candidate, outerCandidates }

def flowEntry? (lexer : Lexer) : Option Lexer := do
  let lexer ← lexer.dropCandidate?
  return ((lexer.allowKey true).push .flowEntry).moveTo lexer.cursor.skip

def blockEntry? (lexer : Lexer) : Option Lexer := do
  guard (lexer.inFlow || lexer.keyAllowed)
  let lexer ← (lexer.rollHere .blockSequenceStart).dropCandidate?
  return ((lexer.allowKey true).push .blockEntry).moveTo lexer.cursor.skip

def key? (lexer : Lexer) : Option Lexer := do
  guard (lexer.inFlow || lexer.keyAllowed)
  let lexer ← (lexer.rollHere .blockMappingStart).dropCandidate?
  return ((lexer.allowKey !lexer.inFlow).push .key).moveTo lexer.cursor.skip

def value? (lexer : Lexer) : Option Lexer :=
  match lexer.candidate with
  | some candidate =>
    let lexer := lexer.insertAt candidate.place .key
    let lexer := lexer.roll candidate.start.column candidate.place .blockMappingStart
    let lexer := { lexer with candidate := none, keyAllowed := false }
    some ((lexer.push .value).moveTo lexer.cursor.skip)
  | none => do
    guard (lexer.inFlow || lexer.keyAllowed)
    let lexer := lexer.rollHere .blockMappingStart
    return ((lexer.allowKey !lexer.inFlow).push .value).moveTo lexer.cursor.skip

def content? (lexer : Lexer) (read : Cursor → Option (Token × Cursor)) : Option Lexer := do
  let lexer ← lexer.noteCandidate?
  let (token, cursor) ← read lexer.cursor
  return ((lexer.allowKey false).push token).moveTo cursor

def named? (token : String → Token) (cursor : Cursor) : Option (Token × Cursor) :=
  (anchorName? cursor).map fun (name, cursor) => (token name, cursor)

def quoted? (single : Bool) (cursor : Cursor) : Option (Token × Cursor) :=
  (Quoted.read? single cursor).map fun (text, cursor) => (.scalar text false, cursor)

def plain? (lexer : Lexer) : Option Lexer := do
  let lexer ← lexer.noteCandidate?
  let (text, broken, cursor) ← Plain.read? lexer.inFlow (lexer.indent + 1).toNat lexer.cursor
  return ((lexer.allowKey broken).push (.scalar text true)).moveTo cursor

def block? (lexer : Lexer) (literal : Bool) : Option Lexer := do
  let lexer ← lexer.dropCandidate?
  let (text, cursor) ← Block.read? literal lexer.indent lexer.cursor
  return ((lexer.allowKey true).push (.scalar text false)).moveTo cursor

/-! ### The next token -/

def isIndicator (c : Char) : Bool :=
  "-?:,[]\x7b\x7d#&*!|>'\"%@\x60".toList.contains c

def atPlain (lexer : Lexer) : Bool :=
  let cursor := lexer.cursor
  (!cursor.clearAt 0 && !cursor.sees 0 isIndicator) ||
    (cursor.isAt '-' && !cursor.sees 1 isBlank) ||
    (!lexer.inFlow && (cursor.isAt '?' || cursor.isAt ':') && !cursor.clearAt 1)

def token? (lexer : Lexer) : Option Lexer :=
  let cursor := lexer.cursor
  let alone := cursor.clearAt 1
  if cursor.column == 0 && cursor.isAt '%' then do
    let (token, cursor) ← Directive.read? cursor
    lexer.outermost? token cursor
  else if cursor.atMark '-' then lexer.outermost? .documentStart (cursor.skipMany 3)
  else if cursor.atMark '.' then lexer.outermost? .documentEnd (cursor.skipMany 3)
  else if cursor.isAt '[' then lexer.openFlow? .flowSequenceStart
  else if cursor.isAt '\x7b' then lexer.openFlow? .flowMappingStart
  else if cursor.isAt ']' then lexer.closeFlow? .flowSequenceEnd
  else if cursor.isAt '\x7d' then lexer.closeFlow? .flowMappingEnd
  else if cursor.isAt ',' then lexer.flowEntry?
  else if cursor.isAt '-' && alone then lexer.blockEntry?
  else if cursor.isAt '?' && (lexer.inFlow || alone) then lexer.key?
  else if cursor.isAt ':' && (lexer.inFlow || alone) then lexer.value?
  else if cursor.isAt '*' then
    lexer.content? (named? .alias)
  else if cursor.isAt '&' then
    lexer.content? (named? .anchor)
  else if cursor.isAt '!' then lexer.content? (Tag.read? lexer.inFlow)
  else if cursor.isAt '|' && !lexer.inFlow then lexer.block? true
  else if cursor.isAt '>' && !lexer.inFlow then lexer.block? false
  else if cursor.isAt '\'' then
    lexer.content? (quoted? true)
  else if cursor.isAt '"' then
    lexer.content? (quoted? false)
  else if lexer.atPlain then lexer.plain?
  else none

def run? : Nat → Lexer → Option (Array Token)
  | 0, _ => none
  | fuel + 1, lexer => do
    let lexer ← (skipToToken (lexer.cursor.rest.length + 1) lexer).dropStale?
    let lexer := lexer.unroll lexer.cursor.column
    if lexer.cursor.atEnd then
      let lexer ← (lexer.unroll (-1)).dropCandidate?
      return lexer.tokens
    else run? fuel (← lexer.token?)

end Lexer

def Token.ofText? (text : String) : Option (Array Token) := do
  let cs := text.toList
  guard (cs.all isAllowed)
  Lexer.run? (cs.length + 1) { cursor := { rest := cs } }

end HomeHub.Yaml
