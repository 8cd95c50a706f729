import ScriptGlue.Main
import ScriptGlue.Proofs.Maps
import ScriptGlue.Proofs.Spacing
import ScriptGlue.Proofs.Reduction
import ScriptGlue.Proofs.BareNames
import ScriptGlue.Proofs.OneRound
import ScriptGlue.Proofs.ParameterTypes
import ScriptGlue.Proofs.Carriage
import ScriptGlue.Proofs.Resolution
import ScriptGlue.Proofs.UnitSteps
import ScriptGlue.Proofs.Completion
import ScriptGlue.Proofs.Dependencies
import ScriptGlue.Proofs.EventDependencies
import ScriptGlue.Proofs.HiddenMembers
import ScriptGlue.Proofs.Supports
import ScriptGlue.Proofs.ClassTypes
import ScriptGlue.Proofs.Reclassification
import ScriptGlue.Proofs.DeclaredSupports
import ScriptGlue.Proofs.DeclarationOrder
import ScriptGlue.Proofs.OverloadSets
import ScriptGlue.Proofs.Passages
import ScriptGlue.Proofs.References
import ScriptGlue.Proofs.Snippets
import ScriptGlue.Proofs.OwnershipModels
import ScriptGlue.Proofs.FunctionNames
import ScriptGlue.Proofs.TypeWords
import ScriptGlue.Proofs.Dispatch
import ScriptGlue.Proofs.CheckedReads
import ScriptGlue.Proofs.AgreeingRegistries
import ScriptGlue.Proofs.Documents
import ScriptGlue.Proofs.Runs
import ScriptGlue.Proofs.RegisteredClasses
import ScriptGlue.Proofs.InputOrder
import ScriptGlue.Proofs.FileTrees
import ScriptGlue.Proofs.WrittenFiles
import ScriptGlue.Proofs.StarForest
import ScriptGlue.Proofs.NearestHeads
import ScriptGlue.Proofs.DirectiveSpans
import ScriptGlue.Proofs.KeptProse
import ScriptGlue.Proofs.DirectiveValues
import ScriptGlue.Proofs.CapturedSections
import ScriptGlue.Proofs.SpelledNumbers
import ScriptGlue.Proofs.EnumeratorNumbers
import ScriptGlue.Proofs.Paragraphs
import ScriptGlue.Proofs.LocalNames
import ScriptGlue.Proofs.Annotations
import ScriptGlue.Proofs.DenotedNames
import ScriptGlue.Proofs.FurtherDenials
import ScriptGlue.Proofs.CurrentSteps
import ScriptGlue.Proofs.ConfigEntries
import ScriptGlue.Proofs.DeclaredTypes
import ScriptGlue.Proofs.LiteralSpellings
import ScriptGlue.Proofs.HeaderLookup
import ScriptGlue.Proofs.IncludedHeaders
import ScriptGlue.Proofs.Identifiers
import ScriptGlue.Proofs.RegisteredEntities
