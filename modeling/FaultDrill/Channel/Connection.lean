import FaultDrill.Channel.Command
import FaultDrill.Text.Utf8

/-!
# FaultDrill.Channel.Connection

A conversation over one connection, when everything that is reported is accepted and released. The
bytes of the reporter are cut into lines, and a line may not be longer than a limit, its line feed
counted. Of a longer line one byte more than the limit is looked at, and these bytes have to be a
text before the line can be refused as too long.
-/

namespace FaultDrill.Connection

open FaultDrill.Text

/-- Takes a line with its line feed, but no more than so many bytes. -/
def takeLine : Nat → Bytes → Bytes × Bytes
  | 0, rest => ([], rest)
  | _, [] => ([], [])
  | n + 1, b :: rest =>
    if b = 10 then ([b], rest)
    else
      let (line, rest) := takeLine n rest
      (b :: line, rest)

/-- Nothing is lost when a line is taken. -/
theorem takeLine_append (n : Nat) (input : Bytes) :
    (takeLine n input).1 ++ (takeLine n input).2 = input := by
  induction n generalizing input with
  | zero => rfl
  | succ n ih =>
    cases input with
    | nil => rfl
    | cons b rest =>
      by_cases h : b = 10
      · simp [takeLine, h]
      · simp [takeLine, h, ih]

/-- Taking a line leaves less. -/
theorem length_takeLine_lt (limit : Nat) (b : UInt8) (rest : Bytes) :
    (takeLine (limit + 1) (b :: rest)).2.length < (b :: rest).length := by
  have h := congrArg List.length (takeLine_append (limit + 1) (b :: rest))
  have h₁ : 0 < (takeLine (limit + 1) (b :: rest)).1.length := by
    by_cases hb : b = 10 <;> simp [takeLine, hb]
  simp only [List.length_append] at h
  omega

/-- A line that is not blank, and how it reads. -/
structure Exchange where
  line : String
  reading : Except CommandFault Command

/-- The answer to a line. -/
def Exchange.reply (e : Exchange) : String :=
  match e.reading with
  | .ok (.report (.checkpoint _)) => "proceed"
  | .ok (.report _) => "ok"
  | .ok .ping => "pong"
  | .error fault => s!"error {fault.message}"

/-- What a line reports. -/
def Exchange.report? (e : Exchange) : Option Report :=
  match e.reading with
  | .ok (.report r) => some r
  | _ => none

/-- How a conversation ends. -/
inductive Ending where
  /-- The reporter has nothing more to say. -/
  | finished
  | lineTooLong
  /-- The bytes that were taken are no text. -/
  | noText
  deriving DecidableEq, Repr

/-- What is said at the end. -/
def Ending.reply? : Ending → Option String
  | .lineTooLong => some "error line too long"
  | .finished | .noText => none

/-- The conversation: the lines that are answered, and how it ends. -/
def converse (limit : Nat) : Bytes → List Exchange × Ending
  | [] => ([], .finished)
  | b :: rest =>
    let taken := takeLine (limit + 1) (b :: rest)
    match Utf8.decode? taken.1 with
    | none => ([], .noText)
    | some text =>
      -- the bytes have to be a text even if they are too many
      if limit < taken.1.length then ([], .lineTooLong)
      else
        let line := trim text.toList
        let (others, ending) := converse limit taken.2
        if line.isEmpty then (others, ending)
        else (⟨String.ofList line, Command.parse line⟩ :: others, ending)
termination_by input => input.length
decreasing_by exact length_takeLine_lt limit b rest

/-- All answers in order. -/
def replies (limit : Nat) (input : Bytes) : List String :=
  let (exchanges, ending) := converse limit input
  exchanges.map Exchange.reply ++ ending.reply?.toList

end FaultDrill.Connection
