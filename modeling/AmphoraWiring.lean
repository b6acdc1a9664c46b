import AmphoraWiring.IdMap
import AmphoraWiring.Number.Rounding
import AmphoraWiring.Number.Floating
import AmphoraWiring.Number.Decimal
import AmphoraWiring.Text.Pieces
import AmphoraWiring.Text.Utf8
import AmphoraWiring.Text.Percent
import AmphoraWiring.Text.Invisible
import AmphoraWiring.Text.Quoted
import AmphoraWiring.Duration
import AmphoraWiring.Address.Basic
import AmphoraWiring.Address.Reader
import AmphoraWiring.Address.Cidr
import AmphoraWiring.Json.Basic
import AmphoraWiring.Json.Writer
import AmphoraWiring.Json.Node
import AmphoraWiring.Json.Reader
import AmphoraWiring.Model.Network
import AmphoraWiring.Model.LoadBalancer
import AmphoraWiring.Error
import AmphoraWiring.Audit
import AmphoraWiring.Config.Basic
import AmphoraWiring.Delta.Basic
import AmphoraWiring.Substrate.Snapshot
import AmphoraWiring.Codec.Mismatch
import AmphoraWiring.Codec.Basic
import AmphoraWiring.Codec.Record
import AmphoraWiring.Codec.Model
import AmphoraWiring.Files.Basic
import AmphoraWiring.Files.Tree
import AmphoraWiring.Config.File
import AmphoraWiring.Database.Url
import AmphoraWiring.Database.Target
import AmphoraWiring.Database.Image
import AmphoraWiring.Database.Path
import AmphoraWiring.Database.Opening
import AmphoraWiring.Database.Tables
import AmphoraWiring.Flow.Action
import AmphoraWiring.Flow.Context
import AmphoraWiring.Flow.Basic
import AmphoraWiring.Flow.Retry
import AmphoraWiring.Substrate.Basic
import AmphoraWiring.Substrate.Port
import AmphoraWiring.Substrate.Instance
import AmphoraWiring.Substrate.Vip
import AmphoraWiring.Substrate.Seed
import AmphoraWiring.Repository
import AmphoraWiring.Deployment
import AmphoraWiring.Delta.Topology
import AmphoraWiring.Delta.Compute
import AmphoraWiring.Saga.Step
import AmphoraWiring.Saga.Attachment
import AmphoraWiring.Saga.Convergence
import AmphoraWiring.Saga.VirtualAddress
import AmphoraWiring.Saga.BasePort
import AmphoraWiring.Saga.PortRemoval
import AmphoraWiring.Saga.Quality
import AmphoraWiring.Saga.SecurityGroup
import AmphoraWiring.Sample
import AmphoraWiring.CommandLine.Arguments
import AmphoraWiring.CommandLine.SnapshotFile
import AmphoraWiring.CommandLine.Outcome
import AmphoraWiring.Main
import AmphoraWiring.Proofs.Endings
import AmphoraWiring.Proofs.Listing
import AmphoraWiring.Proofs.Substrate.Attachment
import AmphoraWiring.Proofs.Substrate.Soundness
import AmphoraWiring.Proofs.Substrate.Calls
import AmphoraWiring.Proofs.Substrate.Addresses
import AmphoraWiring.Proofs.Bookkeeping
import AmphoraWiring.Proofs.Delta.Wanted
import AmphoraWiring.Proofs.Delta.Demands
import AmphoraWiring.Proofs.Delta.Entries
import AmphoraWiring.Proofs.Delta.Exactness
import AmphoraWiring.Proofs.Delta.Lookups
import AmphoraWiring.Proofs.Saga.SubnetChanges
import AmphoraWiring.Proofs.Saga.NicChanges
import AmphoraWiring.Proofs.Saga.Underway
import AmphoraWiring.Proofs.Saga.Applying
import AmphoraWiring.Proofs.Seeding
import AmphoraWiring.Proofs.Saga.PartialFailure
import AmphoraWiring.Proofs.Saga.Policies
import AmphoraWiring.Proofs.Saga.ManagementNetworks
import AmphoraWiring.Proofs.Saga.LeakedPorts
import AmphoraWiring.Proofs.Saga.Capability
import AmphoraWiring.Proofs.Saga.Completion
import AmphoraWiring.Proofs.Saga.Clearing
import AmphoraWiring.Proofs.Saga.Reconciled
import AmphoraWiring.Proofs.Substrate.SameBut
import AmphoraWiring.Proofs.Substrate.VirtualAddresses
import AmphoraWiring.Proofs.Retrying
import AmphoraWiring.Proofs.Substrate.NewPorts
import AmphoraWiring.Proofs.Saga.VipAllocation
import AmphoraWiring.Proofs.Saga.Provisioning
import AmphoraWiring.Proofs.Saga.Additions
import AmphoraWiring.Proofs.Saga.Retraction
import AmphoraWiring.Proofs.Repetition
import AmphoraWiring.Proofs.Saga.Isolation
import AmphoraWiring.Proofs.Saga.Records
import AmphoraWiring.Proofs.Saga.Updates
import AmphoraWiring.Proofs.Parallel.Calls
import AmphoraWiring.Proofs.Parallel.Guarantees
import AmphoraWiring.Proofs.Parallel.Links
import AmphoraWiring.Proofs.Parallel.Making
import AmphoraWiring.Proofs.Parallel.Adding
import AmphoraWiring.Proofs.Parallel.Subnets
import AmphoraWiring.Proofs.Parallel.Removing
import AmphoraWiring.Proofs.Parallel.Interleaving
import AmphoraWiring.Proofs.Substrate.Commands
import AmphoraWiring.Proofs.Substrate.Coherence
import AmphoraWiring.Proofs.Saga.PortDetails
import AmphoraWiring.Proofs.Saga.Reports
import AmphoraWiring.Proofs.History
import AmphoraWiring.Proofs.Address.Numerals
import AmphoraWiring.Proofs.Address.Spelling
import AmphoraWiring.Proofs.Json.Strings
import AmphoraWiring.Proofs.Json.Numbers
import AmphoraWiring.Proofs.Json.Reading
import AmphoraWiring.Proofs.Codec.Spelling
import AmphoraWiring.Proofs.Codec.Documents
import AmphoraWiring.Proofs.Database.Rows
import AmphoraWiring.Proofs.Database.Refinement
import AmphoraWiring.Proofs.Backoff
import AmphoraWiring.Proofs.Substrate.Failures
import AmphoraWiring.Proofs.Saga.MadePorts
import AmphoraWiring.Proofs.Saga.TakingBack
import AmphoraWiring.Proofs.Saga.BestEffort
import AmphoraWiring.Proofs.Saga.FailedAddition
import AmphoraWiring.Proofs.Saga.PortDisposal
import AmphoraWiring.Proofs.Saga.MemberPortRemoval
import AmphoraWiring.Proofs.Waiting
import AmphoraWiring.Proofs.Substrate.VipAddresses
import AmphoraWiring.Proofs.Substrate.Edits
import AmphoraWiring.Proofs.Substrate.Granting
import AmphoraWiring.Proofs.Substrate.ChosenAddresses
import AmphoraWiring.Proofs.Saga.PortListings
import AmphoraWiring.Proofs.Substrate.BasePorts
import AmphoraWiring.Proofs.Substrate.Atomicity
import AmphoraWiring.Proofs.Saga.VipPlugging
import AmphoraWiring.Proofs.Saga.StatusPolling
import AmphoraWiring.Proofs.Saga.BasePortCreation
import AmphoraWiring.Proofs.Saga.SinglePolicies
import AmphoraWiring.Proofs.Substrate.Exclusivity
import AmphoraWiring.Proofs.Substrate.Plugging
import AmphoraWiring.Proofs.Saga.AttachmentHistory
import AmphoraWiring.Proofs.Substrate.GuardedPorts
import AmphoraWiring.Proofs.Saga.VipGuards
import AmphoraWiring.Proofs.Substrate.Fulfilment
import AmphoraWiring.Proofs.Substrate.SeededPorts
import AmphoraWiring.Proofs.Substrate.SeededInstances
import AmphoraWiring.Proofs.Substrate.Loading
import AmphoraWiring.Proofs.Substrate.ScriptedFailures
import AmphoraWiring.Proofs.Substrate.Registration
import AmphoraWiring.Proofs.Saga.ListingAgreement
import AmphoraWiring.Proofs.Saga.NetworkConfigs
import AmphoraWiring.Proofs.Saga.DeadEnds
