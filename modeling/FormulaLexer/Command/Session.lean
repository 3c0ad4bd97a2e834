import FormulaLexer.Command.Run
import FormulaLexer.Settings.Steps

/-!
Sessions: the limit is asked for, it is set, and the program is called, in any order and all with
one store.
-/

namespace FormulaLexer

inductive Request where
  | maxDepth
  | setMaxDepth (requested : Int)
  | program (arguments : List String)
  deriving DecidableEq, Repr

inductive Reply where
  | maxDepth (result : Except SettingsError (DepthLimit × List LogRecord))
  | setMaxDepth (result : Except SettingsError Unit)
  | program (result : Except SettingsError Outcome)

namespace Request

/-- The reply to a request and the store behind it. -/
def run (request : Request) (store : Store) : Reply × Store :=
  match request with
  | maxDepth => (.maxDepth store.maxDepth, store)
  | setMaxDepth requested =>
    let (result, store) := store.setMaxDepthInSteps requested
    (.setMaxDepth result, store)
  | program arguments =>
    let (result, store) := runProgram arguments store
    (.program result, store)

/-- The limit that a request has set, if its reply tells of success. -/
def limitSet? : Request → Reply → Option Int
  | setMaxDepth requested, .setMaxDepth (.ok ()) => some requested
  | program arguments, .program (.ok outcome) =>
    match Command.ofArguments arguments with
    | .ok (.setMaxDepth requested) => if outcome.exitCode = 0 then some requested else none
    | _ => none
  | _, _ => none

end Request

/-- The replies to requests, one after the other, and the store behind the last of them. -/
def runSession : List Request → Store → List Reply × Store
  | [], store => ([], store)
  | request :: rest, store =>
    let (reply, store) := request.run store
    let (replies, store) := runSession rest store
    (reply :: replies, store)

/-- The limit that the last request to set one has set. -/
def lastLimitSet? (requests : List Request) (replies : List Reply) : Option Int :=
  ((requests.zip replies).filterMap fun (request, reply) => request.limitSet? reply).getLast?

end FormulaLexer
