import SyntaxGraph.Proofs.Extraction.Accounts

/-!
# What an extraction stores

The graphs of the sources that were written are in their files, from which they can be loaded, and
no other file is touched but the log.
-/
namespace SyntaxGraph

namespace Extractor

variable {x : Extractor} {dir : String} {output outputDir : Option Path} {world after : World}
  {search : Search} {s : Summary}

/-- An extractor that takes a text for a block, if it is not empty. -/
def blockExtractor : Extractor where
  settings :=
    { source? := some (nestedSettings 1000), graph? := some { lineNumbers := .bool false } }
  parser text := .ok (if text = "" then blankParse 0 else
    .node { type := "program", named := true, start := 0, stop := 0 } ()
      [.node { type := "block", named := true, start := 0, stop := 0 } () []])

def blockSummary : Summary where
  sourceDir := "a"
  outputDir := some "."
  written := ["a/b/A.java", "b/A.java.json"]
  nodes := 4
  edges := 2

theorem gives_blockSummary : ∃ after, (blockExtractor.extractDirectory (.ofString "a")
    (some (.ofString "."))).Gives (worldOf nestedEntries) blockSummary after := by
  have prepares : blockExtractor.Prepares (.ofString "a") (some (.ofString "."))
      (worldOf nestedEntries) _ (nestedSearch 1000) _ :=
    ⟨by decide +kernel, rfl, rfl, findings_nestedSearch (.inr rfl)⟩
  exact ⟨_, prepares.ends_of_silent rfl (Action.gives_of_result (by decide +kernel))⟩

theorem isSource_nestedSearch : (nestedSearch 1000).IsSource ["b", "A.java.json"] [] := by
  refine ⟨rfl, by decide +kernel, fun front _ _ => ?_⟩
  rfl

/-- The graph of an empty source has one row. -/
theorem exists_of_empty {path : Path}
    (known : path = .ofString "a/a/b/A.java" ∨ path = .ofString "a/b/A.java.json") :
    ∃ g, blockExtractor.graphOfBytes path [] = .ok g ∧ g.rows.length = 1 := by
  refine exists_of_map_eq_ok ?_
  rcases known with rfl | rfl <;> decide +kernel

theorem length_rows_of_toJson {g h : Graph} (same : g.toJson = h.toJson) :
    g.rows.length = h.rows.length := by
  rw [Graph.toJson_eq, Graph.toJson_eq] at same
  have rows : g.rows.map Row.toJson = h.rows.map Row.toJson := by simp_all
  simpa using congrArg List.length rows

end Extractor

end SyntaxGraph
