import Commentary.Main
import Commentary.Text.Dedent
import Commentary.Proofs.Document.Configuration
import Commentary.Proofs.Document.Faults
import Commentary.Proofs.Document.Functions
import Commentary.Proofs.Document.Growth
import Commentary.Proofs.Document.Messages
import Commentary.Proofs.Page.Messages
import Commentary.Proofs.Page.Functions
import Commentary.Proofs.Page.Outline
import Commentary.Proofs.FileSystem.Write
import Commentary.Proofs.Generate.Concurrent
import Commentary.Proofs.Generate.Failure
import Commentary.Proofs.Generate.Delivery
import Commentary.Proofs.Generate.LineEnds
import Commentary.Proofs.Generate.FinalNewline
import Commentary.Proofs.Generate.Encoding
import Commentary.Proofs.Generate.Independence
import Commentary.Proofs.CommandLine.Render
import Commentary.Proofs.Document.Indentation
import Commentary.Proofs.Generate.Interruption
import Commentary.Proofs.Source.Frame
import Commentary.Proofs.Page.Declarations
import Commentary.Proofs.Manifest.Resolution
import Commentary.Proofs.Text.Dedent
import Commentary.Proofs.Generate.Fitness
import Commentary.Proofs.FileSystem.Keep
import Commentary.Proofs.CommandLine.Keep
import Commentary.Proofs.CommandLine.Profiles
import Commentary.Proofs.Text.LetterCase
import Commentary.Proofs.Page.Slug
import Commentary.Proofs.Log.Names
import Commentary.Proofs.Source.Headings
import Commentary.Proofs.Source.Shape
import Commentary.Proofs.Template.Plain
