import Vivarium.Main
import Vivarium.StatusView
import Vivarium.Proofs.EnergyRange
import Vivarium.Proofs.Genealogy.Arrivals
import Vivarium.Proofs.Genomes
import Vivarium.Proofs.Isolation
import Vivarium.Proofs.Inventory
import Vivarium.Proofs.Structured
import Vivarium.Proofs.Functions
import Vivarium.Proofs.Returns
import Vivarium.Proofs.EditScripts
import Vivarium.Proofs.Pool.Traffic
import Vivarium.Proofs.View
import Vivarium.Proofs.Cataclysm.Sweep
import Vivarium.Proofs.BlockTable.Matching
import Vivarium.Proofs.Terrain.Conservation
import Vivarium.Proofs.Registers
import Vivarium.Proofs.TokenSet.Listing
import Vivarium.Proofs.Edits
import Vivarium.Proofs.Refusals
import Vivarium.Proofs.Attempts
import Vivarium.Proofs.Ages
import Vivarium.Proofs.Slices
import Vivarium.Proofs.Surface.Ownership
import Vivarium.Proofs.Barriers
import Vivarium.Proofs.Shares
import Vivarium.Proofs.Listings
import Vivarium.Proofs.LoopCounters
import Vivarium.Proofs.Config.Verdict
import Vivarium.Proofs.Grid.Neighbors
import Vivarium.Proofs.Surface.Settling
import Vivarium.Proofs.Lineage.Log
import Vivarium.Proofs.Config.Partial
