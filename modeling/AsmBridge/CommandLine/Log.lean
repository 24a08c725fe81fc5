import AsmBridge.Conversion

/-!
# Progress messages

The text of the events of a conversion, each with the part of the program that reports it.
-/

namespace AsmBridge

/-- The two truth values in messages. -/
def truthText (b : Bool) : Text :=
  if b then "True".toList else "False".toList

/-- The text of an exit sequence. -/
def Epilogue.describe (e : Epilogue) : Text :=
  "Epilogue(start=".toList ++ Decimal.ofInt e.start ++ ", end=".toList ++ Decimal.ofInt e.stop ++
    ", aligned_stack=".toList ++ truthText e.frame.realigned ++
    ", align_value=".toList ++ Decimal.ofInt e.frame.mask ++
    ", stack_size=".toList ++ Decimal.ofInt e.frame.size ++
    ", vzeroupper=".toList ++ truthText e.frame.clearsUpper ++ ")".toList

/-- The text of an event. -/
def Event.describe : Event → Text
  | found name line =>
    "goasmify.segments: Found function ".toList ++ name ++ " at line ".toList ++
      Decimal.ofNat line
  | shaped name epilogue offsetToFirst =>
    "goasmify.segments: ".toList ++ name ++ ": ".toList ++ epilogue.describe ++
      ", first stack argument at rbp+".toList ++ Decimal.ofInt offsetToFirst
  | skipped name => "goasmify: Skipping ".toList ++ name
  | converted name lines disabled =>
    "goasmify: Translated ".toList ++ name ++ " (".toList ++ Decimal.ofNat lines ++
      " lines, ".toList ++ Decimal.ofNat disabled ++ " left for encoding)".toList

end AsmBridge
