import RecordRules.Exchange
import RecordRules.Proofs.Builder
import RecordRules.Proofs.Builder.Programs
import RecordRules.Proofs.Compile.Acceptance
import RecordRules.Proofs.Compile.Agreement
import RecordRules.Proofs.Compile.Duality
import RecordRules.Proofs.Compile.Editing
import RecordRules.Proofs.Compile.Extension
import RecordRules.Proofs.Compile.IgnoringCase
import RecordRules.Proofs.Compile.Integers
import RecordRules.Proofs.Compile.Meaning
import RecordRules.Proofs.Compile.Membership
import RecordRules.Proofs.Compile.Opposites
import RecordRules.Proofs.Compile.Reordering
import RecordRules.Proofs.Compile.Route
import RecordRules.Proofs.Compile.Search
import RecordRules.Proofs.Compile.StoredText
import RecordRules.Proofs.Compile.Target
import RecordRules.Proofs.Compile.Typing
import RecordRules.Proofs.Exchange.Reading
import RecordRules.Proofs.Exchange.RoundTrip
import RecordRules.Proofs.Number
import RecordRules.Proofs.Number.Chains
import RecordRules.Proofs.Number.Integer
import RecordRules.Proofs.Number.Order
import RecordRules.Proofs.Number.Rounding
import RecordRules.Proofs.Obtained
import RecordRules.Proofs.Predicate
import RecordRules.Proofs.Registry.Constants
import RecordRules.Proofs.Registry.Screaming
import RecordRules.Proofs.Registry.Tables
import RecordRules.Proofs.Rule.Checks
import RecordRules.Proofs.Rule.Meaning
import RecordRules.Proofs.Rule.Outcome
import RecordRules.Proofs.Rule.Place
import RecordRules.Proofs.Rule.Reordering
import RecordRules.Proofs.Rule.Shape
import RecordRules.Proofs.Rule.Subrules
import RecordRules.Proofs.Stored.Brackets
import RecordRules.Proofs.Stored.Defects
import RecordRules.Proofs.Stored.Framing
import RecordRules.Proofs.Stored.Grammar
import RecordRules.Proofs.Stored.Linked
import RecordRules.Proofs.Stored.Marker
import RecordRules.Proofs.Stored.Offsets
import RecordRules.Proofs.Stored.Outline
import RecordRules.Proofs.Stored.Reading
import RecordRules.Proofs.Stored.Resaving
import RecordRules.Proofs.Stored.RoundTrip
import RecordRules.Proofs.Stored.Sections
import RecordRules.Proofs.Stored.Spine
import RecordRules.Proofs.Text.Search
import RecordRules.Registry
import RecordRules.Session
