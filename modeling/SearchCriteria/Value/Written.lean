import SearchCriteria.Failure

/-! Values written out, where they can be. -/
namespace SearchCriteria

def writtenInt? (n : Int) : Except Failure String :=
  if Value.isWritableInt n then .ok (toString n) else .error .tooManyDigits

/-- The text of a value, if it can be written out. -/
def Value.written? (v : Value) : Except Failure String :=
  if v.isWritable then .ok v.plain else .error .tooManyDigits

end SearchCriteria
