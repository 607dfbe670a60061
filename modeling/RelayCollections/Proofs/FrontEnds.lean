import RelayCollections.Proofs.Sdl.Nesting
import RelayCollections.Proofs.SyntaxTree.Recovery
import RelayCollections.Source

namespace RelayCollections

/-!
# Both forms of a schema give the same collections

A schema may be given as text or as the syntax tree that another tool has dumped of that
text. The two readers share nothing: one drops what its grammar knows to be no type, the
other what has no name or an unknown kind. They agree on every text that is read at all,
because whatever the grammar reads is dumped under the kind that the other reader expects,
and because no type in a text is nested deeper than a dump may be.

* `outcome_parse_of_isDump` — dumps of a text are read and compiled as the text.
-/

open Sdl (outcome_parseSchema)
open SyntaxTree (IsDump)

/-- The outcome of compiling a source depends on its document alone. -/
theorem outcome_compileSource (form : SourceForm) (source : String) (config : Config) :
    (compileSource form source config).outcome
      = (form.parse source).outcome >>= fun d => (compile d config).outcome :=
  Run.outcome_bind _ _

/-- **Both forms of a schema agree.** A schema text that is read has declarations, and every
    dump of their syntax tree, whatever else it carries, is read as the same document. So
    under every configuration both forms give the same collections or the same failure. -/
theorem outcome_parse_of_isDump {text : String} {d : Document}
    (h : (SourceForm.schemaText.parse text).outcome = .ok d) :
    ∃ ds, Sdl.declarationsOfText text = .ok ds ∧ ∀ dump, IsDump ds dump →
      (SourceForm.syntaxTree.parse dump).outcome = .ok d
        ∧ ∀ config, (compileSource .syntaxTree dump config).outcome
            = (compileSource .schemaText text config).outcome := by
  obtain ⟨ds, hds, hd⟩ := outcome_parseSchema.1 h
  refine ⟨ds, hds, ?_⟩
  intro dump hdump
  have hdepth : ∀ d ∈ ds, d.FieldTypes fun type => type.modifiers.length < 121 := by
    intro d hd
    refine (Sdl.modifiers_of_declarationsOfText hds d hd).mono ?_
    -- Two modifiers for each open bracket and one: far fewer than a dump may nest.
    intro type htype
    have hlimit : 2 * Sdl.bracketLimit + 1 < 121 := by decide
    omega
  have hparse : (SourceForm.syntaxTree.parse dump).outcome = .ok d := by
    rw [← hd]
    exact SyntaxTree.outcome_parseTree_of_isDump hdump hdepth
  refine ⟨hparse, ?_⟩
  intro config
  rw [outcome_compileSource, outcome_compileSource, hparse, h]

/-- A text that declares a node, and what is no type besides. -/
def shelfText : String :=
  "scalar Tag interface Kept implements Node\x7bid:ID!\x7d
  type Book implements Node&Kept\x7btags:[Tag!]!\x7d extend type Book\x7bid:ID\x7d
  directive @old on ENUM"

/-- What the text declares. -/
def shelf : List Sdl.Declaration := [
  .type { kind := .scalar, name := "Tag" },
  .type { kind := .interface, name := "Kept", interfaces := ["Node"], hasBody := true
          fields := [{ name := "id", type := .nonNull (.named "ID") }] },
  .type { kind := .object, name := "Book", interfaces := ["Node", "Kept"], hasBody := true
          fields := [{ name := "tags", type := .nonNull (.list (.nonNull (.named "Tag"))) }] },
  .extension { kind := .object, name := "Book", hasBody := true
               fields := [{ name := "id", type := .named "ID" }] },
  .directive "old"]

set_option maxRecDepth 1000 in
/-- The text is read as its declarations. -/
theorem declarationsOfText_shelfText : Sdl.declarationsOfText shelfText = .ok shelf := by
  -- Evaluating `toList` would decode the text over and over; its characters are known.
  have hchars : shelfText.toList = _ := String.toList_ofList
  rw [Sdl.declarationsOfText, Sdl.tokens, hchars]
  decide +kernel

/-- The theorem at that text and at both layouts of the dump. -/
theorem outcome_parse_of_isDump_shelf :
    (SourceForm.schemaText.parse shelfText).outcome = .ok (Sdl.toDocument shelf)
      ∧ (SourceForm.syntaxTree.parse (SyntaxTree.dump shelf).indented).outcome
          = .ok (Sdl.toDocument shelf)
      ∧ ∀ config, (compileSource .syntaxTree (SyntaxTree.dump shelf).compact config).outcome
          = (compileSource .schemaText shelfText config).outcome := by
  have hread : (SourceForm.schemaText.parse shelfText).outcome = .ok (Sdl.toDocument shelf) :=
    outcome_parseSchema.2 ⟨shelf, declarationsOfText_shelfText, rfl⟩
  obtain ⟨ds, hds, hdumps⟩ := outcome_parse_of_isDump hread
  obtain rfl : shelf = ds := Except.ok.inj (declarationsOfText_shelfText.symm.trans hds)
  exact ⟨hread, (hdumps _ (SyntaxTree.isDump_indented shelf)).1,
    (hdumps _ (SyntaxTree.isDump_compact shelf)).2⟩

end RelayCollections
