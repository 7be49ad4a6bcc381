/-
# Answers

What a session answers to a command.
-/

import TerminalDecoration.Guarded
import TerminalDecoration.Log.Event

namespace TerminalDecoration.Session

/-- What the installation of a logger or a subscriber finds. -/
inductive Occupied where
  /-- There is a logger already. -/
  | logger
  /-- There is a subscriber already. -/
  | subscriber
  deriving DecidableEq, Repr

/-- The refusal in words. -/
def Occupied.message : Occupied → List Char
  | logger =>
    "attempted to set a logger after the logging system was already initialized".toList
  | subscriber => "a global default trace dispatcher has already been set".toList

/-- One answer. -/
inductive Answer where
  | done
  /-- A style name was refused. -/
  | refused (error : NameError)
  /-- A sink failed. -/
  | failed (failure : Failure)
  /-- A line was not printed. -/
  | notPrinted (error : Console.PrintError)
  /-- A sink broke down. -/
  | crashed (message : List Char)
  /-- Nothing is installed; the limit of reports is this one afterwards. -/
  | notInstalled (cause : Occupied) (limit : Log.Limit)
  | number (n : Nat)
  | flag (b : Bool)
  | text (s : List Char)
  | console (console : Console)
  /-- The depth of a console and the indentation of its lines. -/
  | depth (depth : Int) (indent : Nat)
  | style (style : Style)
  /-- The places of the styles that the cache did not know. -/
  | missed (places : List Nat)
  | stencil (isCompound : Bool) (sink : SinkId)
  /-- A filled stencil, as a new line and over the line above. -/
  | filled (line overwriting : List Char)
  /-- What a memory kept, and whether it is empty now. -/
  | taken (contents : List Char) (isEmpty : Bool)
  /-- So many bytes were accepted. -/
  | accepted (count : Nat)
  | sameSink (same : Bool)
  | registry (size : Nat) (isEmpty : Bool)
  | filter (size : Nat) (isEmpty : Bool) (mode : Filter.Mode) (sink : SinkId)
  | mode (mode : Filter.Mode)
  /-- Whether a logger admits the level of a record. -/
  | enabled (isEnabled : Bool)
  | guarded (list : Guarded (List Int))
  /-- The command never comes to an end. -/
  | endless
  /-- The command names an object that is not there. -/
  | unknown

namespace Answer

/-- Whether the command goes on for ever. -/
def isEndless : Answer → Bool
  | endless => true
  | _ => false

/-- The answer to a delivery that is done, or that failed. -/
def ofDelivery (success : Answer) : Delivery → Answer
  | .done => success
  | .failed failure => failed failure
  | .crashed message => crashed message
  | .endless _ => endless

/-- The answer to a delivery of which nobody is told that it failed. -/
def ofLogging (success : Answer) : Delivery → Answer
  | .done | .failed _ => success
  | .crashed message => crashed message
  | .endless _ => endless

/-- The answer to the printing of a line. -/
def ofPrinting : Except NameError Delivery → Answer
  | .error e => notPrinted (.name e)
  | .ok .done => done
  | .ok (.failed failure) => notPrinted (.sink failure)
  | .ok (.crashed message) => crashed message
  | .ok (.endless _) => endless

/-- The answer to a look-up. -/
def ofReading : Except NameError Style → Answer
  | .error e => refused e
  | .ok s => style s

end Answer

end TerminalDecoration.Session
