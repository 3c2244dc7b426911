import ModelRepositories.Main
import ModelRepositories.Proofs.Repository.MethodList
import ModelRepositories.Proofs.FileTree.PathNames
import ModelRepositories.Proofs.FileTree.Descent
import ModelRepositories.Proofs.Text.CamelCase
import ModelRepositories.Proofs.FileTree.Making
import ModelRepositories.Proofs.FileTree.Emptying
import ModelRepositories.Proofs.Repository.Place
import ModelRepositories.Proofs.FileTree.Writing
import ModelRepositories.Proofs.Generation.Steps
import ModelRepositories.Proofs.Generation.Frame
import ModelRepositories.Proofs.Generation.OutputTree
import ModelRepositories.Proofs.FileTree.Growth
import ModelRepositories.Proofs.Generation.Overwriting
import ModelRepositories.Proofs.Repository.RowMethods
import ModelRepositories.Proofs.Protocol.Stream
import ModelRepositories.Proofs.Generation.Extraction
import ModelRepositories.Proofs.Protocol.Answers
import ModelRepositories.Proofs.Schema.Enrichment
import ModelRepositories.Proofs.Schema.Description
import ModelRepositories.Proofs.CommandLine.Agreement
import ModelRepositories.Proofs.Repository.Rendering
import ModelRepositories.Proofs.Generation.LongName
import ModelRepositories.Proofs.Protocol.Layout
import ModelRepositories.Proofs.Protocol.Limit
import ModelRepositories.Proofs.Json.Skipping
import ModelRepositories.Proofs.Json.Written
import ModelRepositories.Proofs.Protocol.RequestValue
import ModelRepositories.Proofs.Repository.Imports
import ModelRepositories.Proofs.FileTree.Components
import ModelRepositories.Proofs.Repository.Confinement
import ModelRepositories.Proofs.Repository.FieldReferences
import ModelRepositories.Proofs.Generation.Independence
import ModelRepositories.Proofs.Repository.View
import ModelRepositories.Proofs.TypeScript.Layout
import ModelRepositories.Proofs.Repository.Nesting
import ModelRepositories.Proofs.Repository.InputType
