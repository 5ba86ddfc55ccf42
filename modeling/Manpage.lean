import Manpage.Main
import Manpage.Files.Tree
import Manpage.Proofs.Collation
import Manpage.Proofs.Prose.Sentence
import Manpage.Proofs.Reference.FlagTable
import Manpage.Proofs.Reference.Reading
import Manpage.Proofs.Reference.Walk
import Manpage.Proofs.Reference.Concatenation
import Manpage.Proofs.Prose.Markup
import Manpage.Proofs.Reference.Canonical
import Manpage.Proofs.Reference.RoundTrip
import Manpage.Proofs.Page.Flag
import Manpage.Proofs.Page.Mention
import Manpage.Proofs.Page.Coverage
import Manpage.Proofs.Reference.Layout
import Manpage.Proofs.Reference.Defects
import Manpage.Proofs.Prose.Lines
import Manpage.Proofs.Reference.Isolation
import Manpage.Proofs.Page.Compilation
import Manpage.Proofs.Page.ControlLines
import Manpage.Proofs.Page.Characters
import Manpage.Proofs.Text.Utf8
import Manpage.Proofs.Text.LineEnds
import Manpage.Proofs.Files.Access
import Manpage.Proofs.Files.Alike
import Manpage.Proofs.Command.Delivery
import Manpage.Proofs.Command.Effects
import Manpage.Proofs.Command.Arguments
import Manpage.Proofs.Command.Freshness
import Manpage.Proofs.Command.Interlude
import Manpage.Proofs.Command.Failures
import Manpage.Proofs.Prose.OnePass
import Manpage.Proofs.Reference.WellFormed
import Manpage.Proofs.Reference.Restart
import Manpage.Proofs.Files.Faults
import Manpage.Proofs.Command.Course
import Manpage.Proofs.Command.ExitStatus
import Manpage.Proofs.Prose.Quotation
import Manpage.Proofs.Page.ItemLines
import Manpage.Proofs.Reference.Undescribed
import Manpage.Proofs.Prose.Spans
import Manpage.Proofs.Prose.Segments
import Manpage.Proofs.Reference.Opening
import Manpage.Proofs.Characters
import Manpage.Proofs.Collation.Ties
import Manpage.Proofs.Page.Values
import Manpage.Proofs.Page.Decoding
import Manpage.Proofs.Command.Listing
import Manpage.Proofs.Command.LineEnds
import Manpage.Proofs.Page.OptionList
