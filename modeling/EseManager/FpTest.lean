import EseManager.Jni
import EseManager.ManagerDaemon

/-!
# The test client of the fingerprint commands

`fptest` hands one of the three binding commands to the manager service, by its arguments; with `3` goes the text that follows it.
-/

namespace EseManager

/-- `ese_sendCommandEx` with a text, whose bytes lie in memory before its terminator. A null pointer with length zero is the empty
text. -/
def NativeClient.eseSendText (c : NativeClient) (cmdId : UInt32) (text : List UInt8) : Int × List ManagerEvent :=
  c.eseSendCommandEx cmdId (c.stack.write 0 (text ++ [0])) (UInt32.ofNat text.length)

/-- `main` of `fptest`, on the arguments behind the name of the program: the value it returns, and the result that it logs, with what
the manager service has done, if it makes a call. -/
def fptestMain (c : NativeClient) (args : List (List UInt8)) : Int × Option (Int × List ManagerEvent) :=
  match args with
  | [] => (0, some (c.eseSendText getEseBinddingStatus []))
  | arg :: rest =>
    -- `strncmp` of one character
    if arg.head? = some 0x31 then
      (0, some (c.eseSendText startBinding []))
    else if arg.head? = some 0x32 then
      (0, some (c.eseSendText getEseBinddingStatus []))
    else if arg.head? = some 0x33 then
      match rest with
      | [] => (-1, none)
      | verifyData :: _ => (0, some (c.eseSendText clearBindingInfo verifyData))
    else
      (0, none)

end EseManager
