import TelemetryLink.Proofs.Config.Text
import TelemetryLink.Proofs.Config.Storage

/-!
# Texts of configurations, whole and in part

A configuration is read from its text again. Where sections or lines of the text are taken away, it
is read with the defaults of what they said, and with everything else as it was.

- `text_roundTrip`: this, for the configurations that have a text, and what becomes of the others.
-/

namespace TelemetryLink.Config

open Files Stateful Toml

variable {config : Config}

/-- The text of the pieces of a document. -/
def textOf (pieces : List Written.Piece) : String :=
  String.ofList (pieces.flatMap Written.Piece.text)

/-- A configuration with a number that is too great has no text. -/
theorem render_of_not_writable (h : ¬ config.Writable) : config.render = .error .outOfRange := by
  cases hrender : config.render with
  | error error =>
    cases error
    rfl
  | ok text => exact absurd (exists_render_iff.1 ⟨text, hrender⟩) h

/-- Without a text nothing is saved, and no file changes. -/
theorem save_of_not_writable (h : ¬ config.Writable) (path : String) (tree : Tree) :
    ∃ error after, on (save path config) tree = (.error error, after) ∧
      Tree.SameFiles tree after := by
  rcases save_cases path tree config with ⟨text, -, htext, -⟩ | hfailed
  · exact absurd (exists_render_iff.1 ⟨text, htext⟩) h
  · exact hfailed

/-- If the format can hold the five numbers of 64 bits of a configuration, the configuration has a
text of headers, lines and empty lines, which is read as the configuration itself; and any pieces of
that text, as long as no line is without its header, are read as the configuration with the defaults
of exactly those settings whose lines are missing. Otherwise it has no text, and saving it fails at
every path of every file tree and writes no file. -/
theorem text_roundTrip (config : Config) :
    (config.Writable →
      ∃ sections, writeParts parts config = .ok sections ∧
        config.render = .ok (textOf (Written.pieces sections)) ∧
        parse (textOf (Written.pieces sections)) = .ok config ∧
        ∀ kept, kept.Sublist (Written.pieces sections) → Written.Headed kept →
          parse (textOf kept) = .ok (config.keeping (Written.keeps kept))) ∧
    (¬ config.Writable →
      config.render = .error .outOfRange ∧
        ∀ path tree, ∃ error after, on (save path config) tree = (.error error, after) ∧
          Tree.SameFiles tree after) := by
  constructor
  · intro hwritable
    -- All sections can be written, and their text is made of pieces.
    obtain ⟨sections, hwrite⟩ := exists_writeParts_parts.2 hwritable
    have hrender := render_of_writeParts hwrite
    rw [Written.document_eq_pieces] at hrender
    exact ⟨sections, hwrite, hrender, parse_render hrender, fun kept => parse_kept hwrite⟩
  · intro hwritable
    exact ⟨render_of_not_writable hwritable, save_of_not_writable hwritable⟩

/-- A configuration whose text is cut down to the line of its port, and one with a pause that the
format cannot hold. -/
theorem text_roundTrip_port :
    let config : Config := { server := { port := 7000 }, auth := { key := some "secret" } }
    let large : Config := { session := { intervalMs := 18446744073709551615 } }
    let kept : List Written.Piece := [.header "server", .line "server" "port" (.integer 7000)]
    config.Writable ∧ Written.Headed kept ∧ ¬ large.Writable ∧
      textOf kept = "[server]\nport = 7000\n" ∧
      parse (textOf kept) = .ok { server := { port := 7000 } } ∧
      large.render = .error .outOfRange := by
  intro config large kept
  have hwritable : config.Writable := by decide
  have hlarge : ¬ large.Writable := by decide
  have hheaded : Written.Headed kept := by
    intro table key value hline
    obtain ⟨rfl, -⟩ : table = "server" ∧ _ := by simpa [kept] using hline
    exact List.mem_cons_self
  obtain ⟨sections, hwrite, -, -, hkept⟩ := (text_roundTrip config).1 hwritable
  -- Both lines are among the pieces of the text, in this order.
  have hsublist : (writeParts parts config).toOption.map (fun sections =>
      decide (kept.Sublist (Written.pieces sections))) = some true := by decide +kernel
  rw [hwrite] at hsublist
  exact ⟨hwritable, hheaded, hlarge, by decide +kernel,
    hkept kept (of_decide_eq_true (Option.some.inj hsublist)) hheaded,
    ((text_roundTrip large).2 hlarge).1⟩

end TelemetryLink.Config
