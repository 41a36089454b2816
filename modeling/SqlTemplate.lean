import SqlTemplate.Main
import SqlTemplate.Macro.Replacement
import SqlTemplate.Proofs.Cancelling
import SqlTemplate.Proofs.LeftoverCalls
import SqlTemplate.Proofs.ReadingBack
import SqlTemplate.Proofs.Reporting
import SqlTemplate.Proofs.Serving
import SqlTemplate.Proofs.Declaring
import SqlTemplate.Proofs.Dependence
import SqlTemplate.Proofs.Commuting
import SqlTemplate.Proofs.Decoding
import SqlTemplate.Proofs.Describing
import SqlTemplate.Proofs.Joining
import SqlTemplate.Proofs.Sequences
import SqlTemplate.Proofs.RoundingAgain
import SqlTemplate.Proofs.Fractions
import SqlTemplate.Proofs.Fragments
import SqlTemplate.Proofs.FilterColumns
import SqlTemplate.Proofs.Envelopes
import SqlTemplate.Proofs.Rendering
import SqlTemplate.Proofs.RoundUnits
import SqlTemplate.Proofs.Calendar
import SqlTemplate.Proofs.TimeTexts
import SqlTemplate.Proofs.ParseErrors
import SqlTemplate.Proofs.Warnings
import SqlTemplate.Proofs.Commands
import SqlTemplate.Proofs.QuotedNames
import SqlTemplate.Proofs.Requoting
import SqlTemplate.Proofs.Offsets
import SqlTemplate.Proofs.Suffixes
