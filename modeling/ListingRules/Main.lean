import ListingRules.CommandLine.Run
import Std.Time

namespace ListingRules.CommandLine

def today : IO Date := do
  let d ← Std.Time.PlainDate.now
  return (Date.ofParts? d.year.toInt d.month.toNat d.day.toNat).getD Date.earliest

partial def readAll (s : IO.FS.Stream) (before : ByteArray) : IO ByteArray := do
  let more ← s.read 65536
  if more.isEmpty then return before else readAll s (before ++ more)

def machine : World IO where
  file path := do
    try
      return some (← IO.FS.readBinFile (String.ofList path)).toList
    catch _ => return none
  input := do return (← readAll (← IO.getStdin) .empty).toList
  today := today

end ListingRules.CommandLine

open ListingRules.CommandLine in
def main (arguments : List String) : IO UInt32 := do
  match ← (run machine (arguments.map String.toList)).run with
  | .ok output =>
      IO.print (String.ofList output)
      return 0
  | .error stop =>
      match stop with
      | .misused => IO.eprintln "error: the arguments are not understood"
      | .failure message => IO.eprintln ("Error: " ++ String.ofList message)
      | .diagnosis message => IO.eprintln (String.ofList message)
      return stop.code.toUInt32
