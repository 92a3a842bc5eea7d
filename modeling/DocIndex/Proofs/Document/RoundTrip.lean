/-
  A DOCUMENT COMES BACK FROM ITS TEXT.

  What is written and what is read do not have the same shape.  Writing goes through values; reading
  takes packages and types straight from the text, field by field into drafts, and only the index
  through values.  Fields that are left out in writing are filled in when a draft is closed.

  1. **Nothing added** (`reads_document`) — the texts of a document are among those with extra members,
     and from all of these the document is read.

  2. **Main statement** (`parse_text_of_document`) — for every layout of the text, and for the two of the
     printer, the document comes back as it was and no entry of its index is set aside.
-/
import DocIndex.Proofs.Document.ExtraMembers

namespace DocIndex

open Json

namespace Document

variable {rounds : Nat}

/-- A document is read from its texts. -/
theorem reads_document (d : Document) (h : ∀ p ∈ d.packages, TypeDecl.levelsAll p.types ≤ 62) :
    Reads rounds
      (record "DocumentationModel" rounds (some (layout rounds (nestingLimit - 1))))
      (Spells d.toJson) ⟨d, []⟩ :=
  (reads_extendedDocument d h).within d.within_extended

/-- **A document comes back from its text.**  Whatever strings, packages and entries it holds, if its
    types nest at most 62 levels deep then the document is read from each of its texts as it was, and
    no entry of its index is set aside.  The two layouts of the printer are among the texts. -/
theorem parse_text_of_document (d : Document)
    (h : ∀ p ∈ d.packages, TypeDecl.levelsAll p.types ≤ 62) :
    (∀ text : String, Spells d.toJson text.toList → parse text = .ok ⟨d, []⟩) ∧
    parse d.toJson.compact = .ok ⟨d, []⟩ ∧ parse d.toJson.pretty = .ok ⟨d, []⟩ := by
  have hparse : ∀ text : String, Spells d.toJson text.toList → parse text = .ok ⟨d, []⟩ := by
    intro text htext
    exact (reads_document d h).finish htext
  -- the printer produces two of the texts
  refine ⟨hparse, hparse _ ?_, hparse _ ?_⟩
  · rw [compact, String.toList_ofList]
    exact spells_write d.toJson
  · rw [pretty, String.toList_ofList]
    exact spells_writeLines 0 d.toJson

/-- A document with a type inside another, with characters that have to be escaped, and with entries
    that leave out what others have. -/
def awkwardNames : Document where
  packages := [⟨"p\"q", [⟨.classType, "A", "p.A", [⟨.enumType, "\\\n", "p.A.\u0001", []⟩]⟩]⟩]
  index := [.ofType .classType "p" "A",
    { Entry.ofMember .method ⟨"p", "A", "p.A"⟩ "get" with signature := some "get(<T> t)" }]

/-- Both layouts of it are read back. -/
theorem parse_text_of_awkwardNames :
    (∀ p ∈ awkwardNames.packages, TypeDecl.levelsAll p.types ≤ 62) ∧
    parse awkwardNames.toJson.compact = .ok ⟨awkwardNames, []⟩ ∧
    parse awkwardNames.toJson.pretty = .ok ⟨awkwardNames, []⟩ := by
  have hlevels : ∀ p ∈ awkwardNames.packages, TypeDecl.levelsAll p.types ≤ 62 := by decide
  exact ⟨hlevels, (parse_text_of_document awkwardNames hlevels).2⟩

end Document
end DocIndex
