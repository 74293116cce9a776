import BuilderPlanner.JavaType.Reader
import BuilderPlanner.Catalog.Load
import BuilderPlanner.Plan.Notes
import BuilderPlanner.SourceText
import BuilderPlanner.Main
import BuilderPlanner.Proofs.Success
import BuilderPlanner.Proofs.Name.Alternative
import BuilderPlanner.Proofs.Name.Identifier
import BuilderPlanner.Proofs.Unicode.Letters
import BuilderPlanner.Proofs.Name.Capital
import BuilderPlanner.Proofs.JavaType.Grammar
import BuilderPlanner.Proofs.JavaType.Soundness
import BuilderPlanner.Proofs.JavaType.Completeness
import BuilderPlanner.Proofs.JavaType.Spelling
import BuilderPlanner.Proofs.JavaType.Rereading
import BuilderPlanner.Proofs.JavaType.Variables
import BuilderPlanner.Proofs.JavaType.Names
import BuilderPlanner.Proofs.JavaType.Lossless
import BuilderPlanner.Proofs.JavaType.FirstUnfit
import BuilderPlanner.Proofs.JavaType.Descent
import BuilderPlanner.Proofs.JavaType.WithinTokens
import BuilderPlanner.Proofs.Catalog.Loaded
import BuilderPlanner.Proofs.Catalog.Scoped
import BuilderPlanner.Proofs.Catalog.Valid
import BuilderPlanner.Proofs.Catalog.Reordering
import BuilderPlanner.Proofs.Catalog.Creation
import BuilderPlanner.Proofs.Declaration.Bindings
import BuilderPlanner.Proofs.Declaration.Readable
import BuilderPlanner.Proofs.Declaration.Renaming
import BuilderPlanner.Proofs.Surface.Visits
import BuilderPlanner.Proofs.Surface.Groups
import BuilderPlanner.Proofs.Surface.Parameterless
import BuilderPlanner.Proofs.Surface.Routes
import BuilderPlanner.Proofs.Surface.Precedence
import BuilderPlanner.Proofs.Surface.Overriding
import BuilderPlanner.Proofs.Surface.Reached
import BuilderPlanner.Proofs.Surface.Instances
import BuilderPlanner.Proofs.Surface.SelfUse
import BuilderPlanner.Proofs.Surface.Renaming
import BuilderPlanner.Proofs.Pick.FirstFit
import BuilderPlanner.Proofs.Property.Getters
import BuilderPlanner.Proofs.Property.Conventions
import BuilderPlanner.Proofs.Property.MethodNames
import BuilderPlanner.Proofs.Plan.Collisions
import BuilderPlanner.Proofs.Plan.Warnings
import BuilderPlanner.Proofs.Plan.PropertyNames
import BuilderPlanner.Proofs.Plan.Identifiers
import BuilderPlanner.Proofs.Plan.OwnGetters
import BuilderPlanner.Proofs.Plan.RootMethods
import BuilderPlanner.Proofs.Plan.StrayVariables
import BuilderPlanner.Proofs.Plan.Parameterless
import BuilderPlanner.Proofs.Json.Quoted
import BuilderPlanner.Proofs.Json.Rereading
import BuilderPlanner.Proofs.Document.Rereading
import BuilderPlanner.Proofs.Pick.Regeneration
import BuilderPlanner.Proofs.Pick.FixedMembers
import BuilderPlanner.Proofs.Catalog.GenericCall
import BuilderPlanner.Proofs.Catalog.WrittenAlike
import BuilderPlanner.Proofs.Plan.Extension
import BuilderPlanner.Proofs.Plan.Rereading
import BuilderPlanner.Proofs.CommandLine.Options
import BuilderPlanner.Proofs.CommandLine.Requests
import BuilderPlanner.Proofs.CommandLine.Reports
import BuilderPlanner.Proofs.CommandLine.Sessions
import BuilderPlanner.Proofs.Pick.SelfUse
import BuilderPlanner.Proofs.Surface.ListedRoot
