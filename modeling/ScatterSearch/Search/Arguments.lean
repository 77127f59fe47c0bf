import ScatterSearch.Decode.Record

/-!
# Arguments of a search
-/

namespace ScatterSearch

/-- What to search for, and how many hits to list. -/
structure SearchArguments where
  text : String
  limit : UInt64
  deriving DecidableEq, Repr

namespace SearchArguments

/-- How many hits are listed when nobody says. -/
def defaultLimit : UInt64 := 10

instance : Wire SearchArguments where
  encode a := .obj [("limit", .uint64 a.limit), ("text", .str a.text)]
  decode := Record.decoder "struct SearchArguments" <|
    SearchArguments.mk <$> Record.required "text" Decoder.string
      <*> Record.withDefault "limit" Decoder.count defaultLimit

end SearchArguments

end ScatterSearch
