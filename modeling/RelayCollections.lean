import RelayCollections.Files.Directory
import RelayCollections.Main
import RelayCollections.Proofs.Resolution
import RelayCollections.Proofs.Closure
import RelayCollections.Proofs.Json.Spelling
import RelayCollections.Proofs.Json.Writing
import RelayCollections.Proofs.Serialization
import RelayCollections.Proofs.Sdl.Grammar
import RelayCollections.Proofs.Sdl.Nesting
import RelayCollections.Proofs.Json.Carrying
import RelayCollections.Proofs.SyntaxTree.Dump
import RelayCollections.Proofs.SyntaxTree.Recovery
import RelayCollections.Proofs.FrontEnds
import RelayCollections.Proofs.Independence
import RelayCollections.Proofs.Json.Form
import RelayCollections.Proofs.Sdl.Recovery
import RelayCollections.Proofs.SyntaxTree.Spelling
import RelayCollections.Proofs.Growth
import RelayCollections.Proofs.Renaming
import RelayCollections.Proofs.SyntaxTree.Offence
import RelayCollections.Proofs.Files.Writing
import RelayCollections.Proofs.CommandLine.Stages
import RelayCollections.Proofs.Warnings
import RelayCollections.Proofs.Sdl.Concatenation
import RelayCollections.Proofs.Configuration
import RelayCollections.Proofs.Classification
import RelayCollections.Proofs.Following
import RelayCollections.Proofs.Log
