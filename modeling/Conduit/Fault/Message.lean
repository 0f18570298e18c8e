import Conduit.Fault.Basic

set_option autoImplicit false

namespace Conduit

/-- How the text of a failed copy begins: it names the bytes that had arrived. -/
def copyFailedText (copied : Nat) (cause : String) : String :=
  "copy failed after " ++ toString copied ++ " bytes: " ++ cause

mutual

def IoFault.message : IoFault → String
  | .plain kind => kind.text
  | .system error => error.text
  | .custom _ payload => payload.message

def Payload.message : Payload → String
  | .text message => message
  | .buffer fault => fault.message
  | .transfer fault => fault.message
  | .copy copied cause => copyFailedText copied cause.message

def BufferFault.message : BufferFault → String
  | .shortBuffer => "short buffer"
  | .overflow => "buffer overflow"
  | .endOfStream => "end of stream"
  | .noProgress => "multiple read or write calls made no progress"
  | .io fault => "I/O error: " ++ fault.message

/-- The text of a fault of a transfer: its stages lead, and several faults are listed by line. -/
def TransferFault.message : TransferFault → String
  | .buffer fault => fault.message
  | .io fault => fault.message
  | .stage tag fault => tag ++ " : " ++ fault.message
  | .many faults => TransferFault.listing faults

/-- Several faults, one a line, parted by semicolons. -/
def TransferFault.listing : List TransferFault → String
  | [] => ""
  | [fault] => fault.message
  | fault :: next :: rest => fault.message ++ ";\n" ++ TransferFault.listing (next :: rest)

end

def CopyFault.message (fault : CopyFault) : String :=
  copyFailedText fault.copied fault.cause.message

mutual

/-- The texts of the causes behind a fault of a reader or writer, nearest first. -/
def IoFault.causes : IoFault → List String
  | .plain _ => []
  | .system _ => []
  | .custom _ payload => payload.causes

/-- The texts of the causes behind a payload, nearest first. -/
def Payload.causes : Payload → List String
  | .text _ => []
  | .buffer fault => fault.causes
  | .transfer fault => fault.causes
  | .copy _ cause => cause.message :: cause.causes

/-- The texts of the causes behind a fault of a buffer, nearest first. -/
def BufferFault.causes : BufferFault → List String
  | .io fault => fault.message :: fault.causes
  | _ => []

/-- The texts of the causes behind a fault of a transfer, nearest first. A fault that only passes
another one on is not a cause of its own. -/
def TransferFault.causes : TransferFault → List String
  | .buffer fault => fault.causes
  | .io fault => fault.causes
  | .stage _ fault => fault.message :: fault.causes
  | .many _ => []

end

namespace TransferFault

/-- The faults whose text is in none of `seen` and in no earlier fault. -/
def distinctFrom (seen : List String) : List TransferFault → List TransferFault
  | [] => []
  | fault :: rest =>
    if fault.message ∈ seen then distinctFrom seen rest
    else fault :: distinctFrom (seen ++ [fault.message]) rest

/-- The faults whose text differs from that of every earlier one, in order. -/
def distinct (faults : List TransferFault) : List TransferFault := distinctFrom [] faults

/-- One fault for all: none for none, a single distinct one as it is, several as `many`. -/
def join (faults : List TransferFault) : Option TransferFault :=
  match distinct faults with
  | [] => none
  | [fault] => some fault
  | several => some (.many several)

end TransferFault

end Conduit
