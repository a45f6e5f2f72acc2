import KeyedText.Event
import KeyedText.Key.Generator
import KeyedText.Key.Place
import KeyedText.Keying.Call
import KeyedText.Keying.Edit
import KeyedText.Keying.Ledger
import KeyedText.Site.Collect
import KeyedText.Source.Program
import KeyedText.Verdict

/-!
# Conversion

A conversion reads a source text, collects its sites, decides each of them, and splices the calls
in.  A site inside one that was converted is passed over.
-/

namespace KeyedText
namespace Keying

open Source

/-- What converts source texts. -/
structure Converter where
  /-- Where text is looked for. -/
  interest : Site.Interest
  /-- What is meant for people. -/
  criteria : Verdict.Criteria
  /-- What derives slugs. -/
  generator : Key.Generator

/-- Words that make a template with several interpolations worth a conversion. -/
def triggers : List String :=
  ["Space", "Room", "space", "room", "Creating", "create", "Select", "join", "already in use",
   "address", "name"]

/-- Whether a template has one of the words in its chunks. -/
def hasTrigger (chunks : List (List Char)) : Bool :=
  chunks.any fun chunk => triggers.any fun word => Text.occurs word.toList chunk

/-! ## Decisions -/

/-- What becomes of a site. -/
inductive Decision where
  /-- The template is passed over. -/
  | passed
  /-- The text is not meant for people, by a rule. -/
  | rejected (rule : Verdict.Rule)
  /-- The site is left to a person. -/
  | review (reason : ReviewReason)
  /-- The site is converted, with a slug that a rule derived. -/
  | converted (slug : String) (rule : Key.SlugRule)
deriving DecidableEq, Repr

/-- Decides a site of a file in a group. -/
def Converter.decide (converter : Converter) (group : String) (site : Site) : Decision :=
  if site.kind == .mixedTemplate && !hasTrigger site.chunks then .passed
  else
    let verdict := Verdict.on converter.criteria site.holder site.text
    if !verdict.accepted then .rejected verdict.rule
    else
      match site.review with
      | some reason => .review reason
      | none =>
        let derivation := converter.generator.derive group site.text
        if derivation.slug.isEmpty then .review .emptyKey
        else .converted (String.ofList derivation.slug) derivation.rule

/-! ## Progress -/

/-- How far a conversion has come. -/
structure Progress where
  /-- What was done. -/
  ledger : Ledger
  /-- The edits, latest first. -/
  edits : List Edit
  /-- The events, latest first. -/
  events : List Event

/-- Nothing has been decided. -/
def Progress.start : Progress :=
  ⟨.empty, [], []⟩

/-- The event of a rejected site. -/
def rejectedEvent (site : Site) (rule : Verdict.Rule) : Event :=
  ⟨.debug, "rejected",
    [("depth", .number site.depth), ("line", .number site.line), ("rule", .text rule.name),
     ("tag", .text (site.tag.getD "-")), ("text", .text (String.ofList site.text))]⟩

/-- The event of a converted site. -/
def convertedEvent (site : Site) (key : String) (rule : Key.SlugRule) : Event :=
  ⟨.debug, "converted",
    [("depth", .number site.depth), ("key", .text key), ("line", .number site.line),
     ("rule", .text rule.name), ("tag", .text (site.tag.getD "-"))]⟩

/-- Goes on with what was decided about a site. -/
def Progress.follow (progress : Progress) (lookup : String) (place : Key.Place) (site : Site) :
    Decision → Progress
  | .passed => progress
  | .rejected rule => { progress with events := rejectedEvent site rule :: progress.events }
  | .review reason =>
    let entry := ReviewEntry.mk site.line reason (String.ofList site.text)
    { progress with ledger := progress.ledger.review entry }
  | .converted slug rule =>
    let key := place.key slug
    let record := Record.mk site.kind (String.ofList site.text) slug key site.line
    { ledger := progress.ledger.record record
      edits := ⟨site.span, replacement lookup key site⟩ :: progress.edits
      events := convertedEvent site key rule :: progress.events }

/-- Whether a site starts inside the latest edit. -/
def Progress.covers (progress : Progress) (site : Site) : Bool :=
  progress.edits.head?.any fun edit => site.span.start < edit.span.stop

/-- Goes on with a site, unless it is covered. -/
def Converter.step (converter : Converter) (place : Key.Place) (progress : Progress)
    (site : Site) : Progress :=
  if progress.covers site then progress
  else
    progress.follow converter.interest.lookup place site (converter.decide place.group site)

/-! ## Conversions -/

/-- What a conversion gives. -/
structure Outcome where
  /-- The new source text. -/
  output : List Char
  /-- What was done. -/
  ledger : Ledger
  /-- What happened, in order. -/
  events : List Event

/-- The event at the end of a conversion. -/
def finishedEvent (path : String) (sites : List Site) (progress : Progress) : Event :=
  ⟨.debug, "transformed source",
    [("candidates", .number sites.length), ("converted", .number progress.edits.length),
     ("file", .text path), ("manual", .number progress.ledger.reviews.length)]⟩

/-- Converts a source text whose syntax tree is known.  Without any edit the text stays, byte
order mark included. -/
def Converter.convertProgram (converter : Converter) (path : String) (place : Key.Place)
    (source : List Char) (program : Node) : Outcome :=
  let text := withoutMark source
  let sites := Site.collect converter.interest text program
  let progress := sites.foldl (converter.step place) .start
  { output := if progress.edits.isEmpty then source else splice text progress.edits.reverse
    ledger := progress.ledger
    events := (finishedEvent path sites progress :: progress.events).reverse }

/-- A fault of a source text with its line. -/
structure SourceFault where
  /-- The line, counted from one. -/
  line : Nat
  /-- What is wrong. -/
  cause : Cause
deriving DecidableEq, Repr

/-- Converts a source text. -/
def Converter.convert (converter : Converter) (path : String) (place : Key.Place)
    (source : List Char) : Except SourceFault Outcome :=
  let text := withoutMark source
  match readProgram text with
  | .error fault => .error ⟨lineAt text fault.position, fault.cause⟩
  | .ok program => .ok (converter.convertProgram path place source program)

end Keying
end KeyedText
