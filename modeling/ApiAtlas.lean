import ApiAtlas.Schema.Payload
import ApiAtlas.Lexical.ModulePath
import ApiAtlas.Lexical.Literal
import ApiAtlas.Layout.Doc
import ApiAtlas.Client.Generate
import ApiAtlas.Naming.Reserved
import ApiAtlas.Naming.Scope
import ApiAtlas.Request.Error
import ApiAtlas.Request.Percent
import ApiAtlas.Request.Params
import ApiAtlas.Explorer.Answer
import ApiAtlas.Explorer.Listing
import ApiAtlas.Explorer.Usage
import ApiAtlas.Descriptor.Method
import ApiAtlas.Yaml.Scalar
import ApiAtlas.Yaml.Lexer
import ApiAtlas.Client.SettingsFile
import ApiAtlas.Request.Host
import ApiAtlas.Request.Url
import ApiAtlas.Files.Path
import ApiAtlas.Files.Tree
import ApiAtlas.Request.Http
import ApiAtlas.Command.Error
import ApiAtlas.Command.Explore
import ApiAtlas.Command.Produce
import ApiAtlas.Main
import ApiAtlas.Resources.Outline
import ApiAtlas.Proofs.Resources.Growth
import ApiAtlas.Proofs.Resources.NestedView
import ApiAtlas.Proofs.Resources.Acceptance
import ApiAtlas.Proofs.Resources.Complaint
import ApiAtlas.Proofs.Resources.Rooted
import ApiAtlas.Proofs.Resources.Lineage
import ApiAtlas.Proofs.Resources.Walk
import ApiAtlas.Proofs.Resources.Keys
import ApiAtlas.Proofs.Resources.RoundTrip
import ApiAtlas.Proofs.Resources.Reach
import ApiAtlas.Proofs.Resources.DepthFirst
import ApiAtlas.Client.Filling
import ApiAtlas.Proofs.Client.Types
import ApiAtlas.Proofs.Client.TypeNames
import ApiAtlas.Proofs.Client.Filling
import ApiAtlas.Proofs.Client.Paths
import ApiAtlas.Proofs.Command.Required
import ApiAtlas.Proofs.Text.Ascii
import ApiAtlas.Proofs.Naming.Identifiers
import ApiAtlas.Proofs.Naming.Words
import ApiAtlas.Proofs.Client.Identifiers
import ApiAtlas.Proofs.Client.Settled
import ApiAtlas.Proofs.Client.Members
import ApiAtlas.Proofs.Client.Fields
import ApiAtlas.Proofs.Client.Constructors
import ApiAtlas.Proofs.Client.Foreign
import ApiAtlas.Proofs.Text.Pieces
import ApiAtlas.Proofs.Text.Lines
import ApiAtlas.Proofs.Layout.Pages
import ApiAtlas.Proofs.Client.Comments
import ApiAtlas.Proofs.Client.Documentation
import ApiAtlas.Proofs.Client.Characters
import ApiAtlas.Proofs.Client.Returns
import ApiAtlas.Proofs.Descriptor.Undescribed
import ApiAtlas.Proofs.Resources.Undescribed
import ApiAtlas.Proofs.Client.Undescribed
import ApiAtlas.Proofs.Request.Form
import ApiAtlas.Proofs.Command.Fields
import ApiAtlas.Proofs.Command.Runs
import ApiAtlas.Proofs.Request.Http
import ApiAtlas.Proofs.Command.Calls
import ApiAtlas.Proofs.Request.Server
import ApiAtlas.Proofs.Request.Dots
import ApiAtlas.Proofs.Request.Resource
import ApiAtlas.Proofs.Request.Keys
import ApiAtlas.Proofs.Request.Plain
import ApiAtlas.Proofs.Command.Targets
import ApiAtlas.Proofs.Json.Delimited
import ApiAtlas.Proofs.Schema.Scripts
import ApiAtlas.Client.Sending
import ApiAtlas.Proofs.Client.Sending
import ApiAtlas.Proofs.Explorer.Verbs
import ApiAtlas.Proofs.Client.Core
import ApiAtlas.Proofs.Json.Fields
import ApiAtlas.Proofs.Text.Bytes
import ApiAtlas.Proofs.Descriptor.Ordering
import ApiAtlas.Proofs.Client.Families
import ApiAtlas.Proofs.Schema.Cursors
import ApiAtlas.Proofs.Schema.Places
import ApiAtlas.Proofs.Schema.Truth
import ApiAtlas.Proofs.Descriptor.Refusals
import ApiAtlas.Proofs.Descriptor.Truth
import ApiAtlas.Proofs.Resources.Truth
import ApiAtlas.Proofs.Explorer.Answers
import ApiAtlas.Proofs.Explorer.Listings
import ApiAtlas.Proofs.Naming.Alterations
import ApiAtlas.Proofs.Client.ReservedWords
import ApiAtlas.Proofs.Client.Shadowing
import ApiAtlas.Proofs.Client.Imports
import ApiAtlas.Proofs.Request.Base
import ApiAtlas.Files.Faults
import ApiAtlas.Proofs.Files.Replacing
import ApiAtlas.Proofs.Command.Words
import ApiAtlas.Proofs.Command.Produce
import ApiAtlas.Proofs.Binary64.Exact
import ApiAtlas.Proofs.Rendering.Bytes
import ApiAtlas.Proofs.Rendering.Durations
import ApiAtlas.Proofs.Naming.Claims
import ApiAtlas.Proofs.Naming.Cases
