import GraphBoard.Board.Basic
import GraphBoard.Board.Draw
import GraphBoard.Board.Loop
import GraphBoard.Board.Mount
import GraphBoard.Config.Basic
import GraphBoard.Config.Read
import GraphBoard.Error
import GraphBoard.Files
import GraphBoard.Http.Body
import GraphBoard.Http.Client
import GraphBoard.Http.Headers
import GraphBoard.Http.Server
import GraphBoard.Input.Event
import GraphBoard.Input.Key
import GraphBoard.Json.Read
import GraphBoard.Json.Value
import GraphBoard.Link.Escape
import GraphBoard.Link.Query
import GraphBoard.Log.Folder
import GraphBoard.Log.Line
import GraphBoard.Main
import GraphBoard.Number.Binary64
import GraphBoard.Panel.Basic
import GraphBoard.Panel.Controls
import GraphBoard.Panel.Operations
import GraphBoard.Screen.Dots
import GraphBoard.Screen.Frame
import GraphBoard.Screen.Grid
import GraphBoard.Screen.Image
import GraphBoard.Screen.Label
import GraphBoard.Screen.Look
import GraphBoard.Screen.Paragraph
import GraphBoard.Screen.Plot
import GraphBoard.Screen.Rows
import GraphBoard.Series.Basic
import GraphBoard.Series.Chart
import GraphBoard.Series.Feed
import GraphBoard.Start
import GraphBoard.Text.Blank
import GraphBoard.Text.Extending
import GraphBoard.Text.Grapheme
import GraphBoard.Text.Percent
import GraphBoard.Text.Printable
import GraphBoard.Text.Quoted
import GraphBoard.Text.Range
import GraphBoard.Text.Utf8
import GraphBoard.Text.Width
import GraphBoard.TimeRange
import GraphBoard.Url.Address
import GraphBoard.Url.Host
import GraphBoard.Url.Parse
import GraphBoard.Url.Path
import GraphBoard.Work.Backlog
import GraphBoard.Work.Job
import GraphBoard.Yaml.Cursor
import GraphBoard.Yaml.Document
import GraphBoard.Yaml.Lexer
import GraphBoard.Yaml.Name
import GraphBoard.Yaml.Node
import GraphBoard.Yaml.Scalar
import GraphBoard.Yaml.Token
import GraphBoard.Proofs.Operations
import GraphBoard.Proofs.Offline
import GraphBoard.Proofs.Fetches
import GraphBoard.Proofs.FetchTrace
import GraphBoard.Proofs.Freshness
import GraphBoard.Proofs.Independence
import GraphBoard.Proofs.PictureAccounts
import GraphBoard.Proofs.Displayed
import GraphBoard.Proofs.Dormant
import GraphBoard.Proofs.Schedule
import GraphBoard.Proofs.FeedAccounts
import GraphBoard.Proofs.Escaping
import GraphBoard.Proofs.GraphAddresses
import GraphBoard.Proofs.AddressReading
import GraphBoard.Proofs.RelativeAddresses
import GraphBoard.Proofs.SentRange
import GraphBoard.Proofs.KeptPictures
import GraphBoard.Proofs.Drawing
import GraphBoard.Proofs.Frames
import GraphBoard.Proofs.Polling
import GraphBoard.Proofs.Visibility
import GraphBoard.Proofs.Selection
import GraphBoard.Proofs.OfflineBoard
import GraphBoard.Proofs.SignalOrder
import GraphBoard.Proofs.Parameters
import GraphBoard.Proofs.Unescaping
import GraphBoard.Proofs.Answers
import GraphBoard.Proofs.GraphNames
import GraphBoard.Proofs.FirstCalls
import GraphBoard.Proofs.UsableBases
import GraphBoard.Proofs.CharacterBytes
import GraphBoard.Proofs.JsonStrings
import GraphBoard.Proofs.JsonTexts
import GraphBoard.Proofs.JsonPrefixes
import GraphBoard.Proofs.WholeNumbers
import GraphBoard.Proofs.SeriesTexts
import GraphBoard.Proofs.ChartRange
import GraphBoard.Proofs.ConfigTexts
