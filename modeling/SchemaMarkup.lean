import SchemaMarkup.Expander.Command
import SchemaMarkup.Main
import SchemaMarkup.Proofs.Directive.Meaning
import SchemaMarkup.Proofs.Directive.Written
import SchemaMarkup.Proofs.Expander.Fragments
import SchemaMarkup.Proofs.Expander.SecondPass
import SchemaMarkup.Renderer.Call
import SchemaMarkup.Settings.Environment
import SchemaMarkup.Site.CommandLine
import SchemaMarkup.Vocabulary.Bundled
import SchemaMarkup.Vocabulary.File
import SchemaMarkup.Vocabulary.Query
import SchemaMarkup.Proofs.Vocabulary.Expected
import SchemaMarkup.Proofs.Vocabulary.Root
import SchemaMarkup.Proofs.Engine.Automatic
import SchemaMarkup.Proofs.Engine.Pending
import SchemaMarkup.Proofs.Expander.Alike
import SchemaMarkup.Proofs.Markup.Moved
import SchemaMarkup.Proofs.Markup.Parts
import SchemaMarkup.Proofs.Expander.Parts
import SchemaMarkup.Proofs.Expander.OneTag
import SchemaMarkup.Proofs.Expander.Recognition
import SchemaMarkup.Proofs.Site.Run
import SchemaMarkup.Proofs.Engine.Shapes
import SchemaMarkup.Proofs.Expander.RawText
import SchemaMarkup.Proofs.Expander.Registry
import SchemaMarkup.Proofs.Renderer.Elements
