import SlideDeck.Main
import SlideDeck.Service
import SlideDeck.Session
import SlideDeck.Proofs.Json.LongRun
import SlideDeck.Proofs.Deck.Segments
import SlideDeck.Proofs.Deck.Build
import SlideDeck.Proofs.Deck.BadShapes
import SlideDeck.Proofs.Deck.TextBlocks
import SlideDeck.Proofs.Decimal.Stored
import SlideDeck.Proofs.Decimal.Rounding
import SlideDeck.Proofs.Decimal.Double
import SlideDeck.Proofs.Decimal.Number
import SlideDeck.Proofs.Decimal.Nearest
import SlideDeck.Proofs.Layout.Columns
import SlideDeck.Proofs.Layout.Finite
import SlideDeck.Proofs.Drawing.TextBlock
import SlideDeck.Proofs.Deck.ShownText
import SlideDeck.Proofs.Drawing.ShownText
import SlideDeck.Proofs.Layout.Cursor
import SlideDeck.Proofs.Layout.Parts
import SlideDeck.Proofs.Layout.Placement
import SlideDeck.Proofs.Layout.Exact
import SlideDeck.Proofs.Deck.Leaves
import SlideDeck.Proofs.Deck.ShapeForm
import SlideDeck.Proofs.Deck.WrittenShapes
import SlideDeck.Proofs.Drawing.Gallery
import SlideDeck.Proofs.Drawing.Figures
import SlideDeck.Proofs.Drawing.Deck
import SlideDeck.Proofs.Text.Lines
import SlideDeck.Proofs.Markdown.DefinitionLines
import SlideDeck.Proofs.Markdown.ReadLines
import SlideDeck.Proofs.Deck.Quotes
import SlideDeck.Proofs.Markdown.BlockEnds
import SlideDeck.Proofs.Deck.LineBreaks
import SlideDeck.Proofs.Drawing.LineCounts
import SlideDeck.Proofs.Files.Following
import SlideDeck.Proofs.Drawing.Insertion
import SlideDeck.Proofs.Drawing.Pictures
import SlideDeck.Proofs.Drawing.Shapes
import SlideDeck.Proofs.Layout.Reached
import SlideDeck.Proofs.Conversion
import SlideDeck.Proofs.Uploads
import SlideDeck.Proofs.Layout.Answered
import SlideDeck.Proofs.Service
import SlideDeck.Proofs.Deck.Workshop
import SlideDeck.Proofs.CommandLine.Reading
import SlideDeck.Proofs.CommandLine.Execution
import SlideDeck.Proofs.Deck.Forms
import SlideDeck.Proofs.Deck.Bullets
import SlideDeck.Proofs.Drawing.Bullets
import SlideDeck.Proofs.Deck.TaskMarkers
import SlideDeck.Proofs.Text.Trim
import SlideDeck.Proofs.Markdown.QuoteMarks
import SlideDeck.Proofs.Deck.QuotedNotes
import SlideDeck.Proofs.Text.Ascii
import SlideDeck.Proofs.Drawing.Numerals
import SlideDeck.Proofs.Drawing.Colors
import SlideDeck.Proofs.Json.Written
import SlideDeck.Proofs.Json.Members
import SlideDeck.Proofs.Json.Spelling
import SlideDeck.Proofs.Json.ReadBack
import SlideDeck.Proofs.Deck.OptionTexts
import SlideDeck.Proofs.Json.Tokens
import SlideDeck.Proofs.Deck.RawText
import SlideDeck.Proofs.Drawing.PlainText
import SlideDeck.Proofs.Text.Words
import SlideDeck.Proofs.Markdown.Leaves
import SlideDeck.Proofs.Deck.ShownWords
import SlideDeck.Proofs.Markdown.RebuiltSource
import SlideDeck.Proofs.Markdown.Nesting
import SlideDeck.Proofs.Markdown.Pictures
import SlideDeck.Proofs.Drawing.Tables
import SlideDeck.Proofs.Drawing.LayoutChoice
import SlideDeck.Proofs.Text.Octets
import SlideDeck.Proofs.Text.Quoted
import SlideDeck.Proofs.CommandLine.UnreadableDocument
import SlideDeck.Proofs.Files.DeckPath
import SlideDeck.Proofs.CommandLine.OutputPath
import SlideDeck.Proofs.Drawing.PictureFiles
import SlideDeck.Proofs.ServerFiles
