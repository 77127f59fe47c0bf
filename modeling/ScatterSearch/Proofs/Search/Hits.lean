import ScatterSearch.Proofs.Decode.Reads
import ScatterSearch.Search.Hits

/-!
# Hits over the wire

What a shard sends of its hits is what arrives.
-/

namespace ScatterSearch

open Decoder

theorem Shard.reads (s : Shard) : (Wire.decode : Decoder Shard).Reads (encode s) s :=
  (((Record.Takes.required "table" (.string s.table)).map Shard.mk).seq
    (.required "shard" (.string s.shard))).reads _ (by simp) (.swap _ _ _)

theorem SearchHit.reads (h : SearchHit) : (Wire.decode : Decoder SearchHit).Reads (encode h) h :=
  ((((Record.Takes.required "id" (.string h.id)).map SearchHit.mk).seq
    (.required "score" (.u64 h.score))).seq
    (.required "shard" h.shard.reads)).reads _ (by simp) .rfl

/-- A shard's answer arrives as it was sent. -/
theorem ShardHits.reads (h : ShardHits) : (Wire.decode : Decoder ShardHits).Reads (encode h) h :=
  (((Record.Takes.required "total_results" (.u64 h.totalResults)).map ShardHits.mk).seq
    (.required "hits" (.list SearchHit.reads h.hits))).reads _ (by simp) (.swap _ _ _)

end ScatterSearch
