import FormulaLexer.Lexer.InPlace

/-!
Lexing in place, step by step. A call of the lexer reads one list of siblings, and takes a turn
for each of them. A call that comes to a group waits until another one has read the text between
the parentheses.
-/

namespace FormulaLexer

/-- The position behind the blanks that stand at `start`, where the text counts as if it ended
at `stop`. Bounds are moved into the text, and there is no such position if they cross there. -/
def Text.blanksEnd? (s : List Char) (start stop : Int) : Option Int :=
  let first := min start.toNat s.length
  let last := min stop.toNat s.length
  if first ≤ last then some (skipBlanks s first last) else none

/-- A call of the lexer: the number of groups around the part of the text that it reads, the
tokens that it has read there, and the bounds of what is left. -/
structure LexCall where
  depth : Nat
  before : List Token
  start : Int
  stop : Int

/-- What a turn of a call comes to behind the blanks. -/
inductive LexTurn where
  /-- The bounds cross, and no end of the blanks is found. -/
  | lost
  /-- Nothing is left. -/
  | ended
  | failed (error : LexError)
  /-- A leaf, with the position behind it. -/
  | leaf (token : Token) (behind : Int)
  /-- A group, with the positions of its first character and behind its last one. -/
  | group (start stop : Int)

/-- How often a lexeme is looked for in a turn: once, where something is left behind the
blanks. -/
def LexTurn.lookups : LexTurn → Nat
  | lost | ended => 0
  | failed _ | leaf _ _ | group _ _ => 1

namespace LexCall

/-- What is left for a call from a position on. -/
def remaining (s : List Char) (here : Int) (call : LexCall) : String :=
  String.ofList ((s.take call.stop.toNat).drop here.toNat)

/-- What a call comes to at a position, by the lexeme that stands there. -/
def turnAt (limit : Nat) (s : List Char) (offset here : Int) (call : LexCall) :
    Option Lexeme → LexTurn
  | none =>
    let reason := if s[here.toNat]? = some '(' then .unterminatedGroup else .unrecognizedToken
    .failed ⟨here + offset, call.remaining s here, reason⟩
  | some lexeme =>
    let behind := here + lexeme.text.length
    match lexeme.shape.leafKind? with
    | some kind =>
      .leaf (.leaf kind (String.ofList lexeme.text) ⟨here + offset, behind + offset⟩) behind
    | none =>
      if limit ≤ call.depth then
        .failed ⟨here + offset, call.remaining s here, .depthExceeded⟩
      else .group here behind

/-- A turn of a call: blanks are skipped, and a lexeme is looked for behind them. -/
def turn (limit : Nat) (s : List Char) (offset : Int) (call : LexCall) : LexTurn :=
  match Text.blanksEnd? s call.start call.stop with
  | none => .lost
  | some here =>
    if here < call.stop then
      let operand := call.before.getLast?.all fun token => token.kind = .leaf .operator
      call.turnAt limit s offset here
        (Lexeme.between? operand s here.toNat call.stop.toNat)
    else .ended

/-- The call goes on behind a token. -/
def read (token : Token) (behind : Int) (call : LexCall) : LexCall :=
  { call with before := call.before ++ [token], start := behind }

end LexCall

/-- A group that is being read, with the call that has come to it and waits for its tokens. -/
structure OpenGroup where
  caller : LexCall
  start : Int
  stop : Int

/-- The call that reads what stands between the parentheses. -/
def OpenGroup.inside (group : OpenGroup) : LexCall :=
  ⟨group.caller.depth + 1, [], group.start + 1, group.stop - 1⟩

/-- The caller goes on behind the group. -/
def OpenGroup.close (offset : Int) (children : List Token) (group : OpenGroup) : LexCall :=
  group.caller.read (.group children ⟨group.start + offset, group.stop + offset⟩) group.stop

/-- A lexer at work: the call whose turn it is, the groups around it from the innermost out,
and how often a lexeme was looked for so far. -/
structure LexState where
  active : LexCall
  around : List OpenGroup
  lookups : Nat

/-- All calls that have not ended: the one at work, and those that wait. -/
def LexState.calls (state : LexState) : List LexCall :=
  state.active :: state.around.map OpenGroup.caller

inductive LexStatus where
  | running (state : LexState)
  | finished (result : Except LexError (List Token)) (lookups : Nat)
  /-- A call was left without an end of the blanks. -/
  | lost

/-- One step: a turn of the call at work. Where the call has ended, the caller goes on behind
the group. -/
def LexState.step (limit : Nat) (s : List Char) (offset : Int) (state : LexState) : LexStatus :=
  let turn := state.active.turn limit s offset
  let lookups := state.lookups + turn.lookups
  match turn with
  | .lost => .lost
  | .failed error => .finished (.error error) lookups
  | .leaf token behind => .running ⟨state.active.read token behind, state.around, lookups⟩
  | .group start stop =>
    let group : OpenGroup := ⟨state.active, start, stop⟩
    .running ⟨group.inside, group :: state.around, lookups⟩
  | .ended =>
    match state.around with
    | [] => .finished (.ok state.active.before) lookups
    | group :: around => .running ⟨group.close offset state.active.before, around, lookups⟩

def LexStatus.next (limit : Nat) (s : List Char) (offset : Int) : LexStatus → LexStatus
  | running state => state.step limit s offset
  | status => status

/-- The status after so many steps. Lexing starts with one call for the whole text. -/
def lexSteps (limit : Nat) (s : List Char) (offset : Int) : Nat → LexStatus
  | 0 => .running ⟨⟨0, [], 0, s.length⟩, [], 0⟩
  | n + 1 => (lexSteps limit s offset n).next limit s offset

end FormulaLexer
