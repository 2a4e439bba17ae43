import ContainerReplay.Application
import ContainerReplay.Classes.Index
import ContainerReplay.Classes.Name
import ContainerReplay.Classes.ServletApi
import ContainerReplay.CommandLine.Invocation
import ContainerReplay.CommandLine.Option
import ContainerReplay.CommandLine.Progress
import ContainerReplay.CommandLine.Run
import ContainerReplay.Component.ActionMapping
import ContainerReplay.Component.Basic
import ContainerReplay.Component.Injection
import ContainerReplay.Component.Kind
import ContainerReplay.Descriptor.ActionConfig
import ContainerReplay.Descriptor.Deployment
import ContainerReplay.Descriptor.Encoding
import ContainerReplay.Descriptor.Reading
import ContainerReplay.Detection.Actions
import ContainerReplay.Detection.Chain
import ContainerReplay.Detection.Detector
import ContainerReplay.Detection.Error
import ContainerReplay.Detection.Registry
import ContainerReplay.Detection.Servlets
import ContainerReplay.Diagnostic
import ContainerReplay.Driver.Basic
import ContainerReplay.Driver.Draft
import ContainerReplay.Driver.Statement
import ContainerReplay.EntryPoint
import ContainerReplay.Files.Access
import ContainerReplay.Files.Disk
import ContainerReplay.Files.Loader
import ContainerReplay.Files.Path
import ContainerReplay.Files.Tree
import ContainerReplay.Interchange.Reading
import ContainerReplay.Interchange.Writing
import ContainerReplay.Json.Basic
import ContainerReplay.Json.Fault
import ContainerReplay.Json.Number
import ContainerReplay.Json.Reader
import ContainerReplay.Json.Record
import ContainerReplay.Json.Skip
import ContainerReplay.Logging
import ContainerReplay.Main
import ContainerReplay.Markup.Assembly
import ContainerReplay.Markup.Character
import ContainerReplay.Markup.Content
import ContainerReplay.Markup.Cursor
import ContainerReplay.Markup.Document
import ContainerReplay.Markup.Fault
import ContainerReplay.Markup.Node
import ContainerReplay.Markup.Reference
import ContainerReplay.Report.Format
import ContainerReplay.Report.Inspection
import ContainerReplay.Settings
import ContainerReplay.Survey
import ContainerReplay.Synthesis.Actions
import ContainerReplay.Synthesis.Basic
import ContainerReplay.Synthesis.Servlets
import ContainerReplay.Synthesis.Template
import ContainerReplay.Text.Blank
import ContainerReplay.Text.Invisible
import ContainerReplay.Text.Numeral
import ContainerReplay.Text.Quoted
import ContainerReplay.Text.Shortest
import ContainerReplay.Text.Utf8
import ContainerReplay.Yaml.Scalar
import ContainerReplay.Yaml.Style
import ContainerReplay.Yaml.Writer
import ContainerReplay.Proofs.ComponentTable
import ContainerReplay.Proofs.Merging
import ContainerReplay.Proofs.Growth
import ContainerReplay.Proofs.DeploymentContent
import ContainerReplay.Proofs.PassEffects
import ContainerReplay.Proofs.ModelGrowth
import ContainerReplay.Proofs.MappingTargets
import ContainerReplay.Proofs.Covering
import ContainerReplay.Proofs.Reinstalling
import ContainerReplay.Proofs.ActionUpgrades
import ContainerReplay.Proofs.RepeatedRuns
import ContainerReplay.Proofs.ContainerOrder
import ContainerReplay.Proofs.DriverAccounting
import ContainerReplay.Proofs.UnitStatements
import ContainerReplay.Proofs.DeclaredDispatch
import ContainerReplay.Proofs.StraightLine
import ContainerReplay.Proofs.RegisteredKinds
import ContainerReplay.Proofs.MissingTemplates
import ContainerReplay.Proofs.TemplateCoverage
import ContainerReplay.Proofs.ActionOwnership
import ContainerReplay.Proofs.FileInfluence
import ContainerReplay.Proofs.Registration
import ContainerReplay.Proofs.Allocations
import ContainerReplay.Proofs.ClassOrigins
import ContainerReplay.Proofs.FailedReads
import ContainerReplay.Proofs.InstantiatedClasses
import ContainerReplay.Proofs.DeploymentStages
import ContainerReplay.Proofs.RepeatedReads
import ContainerReplay.Proofs.TextShapes
import ContainerReplay.Proofs.ActionElements
import ContainerReplay.Proofs.ActionReading
import ContainerReplay.Proofs.ModulePaths
import ContainerReplay.Proofs.UnitNames
import ContainerReplay.Proofs.MappingFamilies
import ContainerReplay.Proofs.MatchingDocuments
import ContainerReplay.Proofs.MovedCursors
import ContainerReplay.Proofs.MovedTokens
import ContainerReplay.Proofs.ParallelReading
import ContainerReplay.Proofs.ParallelContent
import ContainerReplay.Proofs.AbreastAssemblies
import ContainerReplay.Proofs.AbreastTexts
import ContainerReplay.Proofs.ContentAcross
import ContainerReplay.Proofs.SteadyDeclarations
import ContainerReplay.Proofs.SteadyProlog
import ContainerReplay.Proofs.DocumentsAcross
import ContainerReplay.Proofs.CommentRemoval
import ContainerReplay.Proofs.SoundRegistries
import ContainerReplay.Proofs.RepeatedUpgrades
import ContainerReplay.Proofs.SectionOrder
import ContainerReplay.Proofs.ReadTallies
import ContainerReplay.Proofs.ReadAccounting
import ContainerReplay.Proofs.SelectedDetectors
import ContainerReplay.Proofs.EarlierRemarks
import ContainerReplay.Proofs.CheckFiles
import ContainerReplay.Proofs.ObjectHistories
import ContainerReplay.Proofs.ContainerProtocol
import ContainerReplay.Proofs.CarriedMappings
import ContainerReplay.Proofs.ClassHierarchy
import ContainerReplay.Proofs.HierarchySearches
import ContainerReplay.Proofs.ServletPackages
import ContainerReplay.Proofs.LogicalPaths
import ContainerReplay.Proofs.ClassPaths
import ContainerReplay.Proofs.DeployedClasses
import ContainerReplay.Proofs.ListenerCallbacks
import ContainerReplay.Proofs.DeclaredEncodings
import ContainerReplay.Proofs.QuotedTexts
import ContainerReplay.Proofs.ArgumentTexts
import ContainerReplay.Proofs.SpelledValues
import ContainerReplay.Proofs.DataForms
