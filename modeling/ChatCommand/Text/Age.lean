import ChatCommand.Text.Table

/-!
# Ages

The versions of Unicode, each with the characters that came with it.
-/

namespace ChatCommand.Text

/-- The characters by the version that they came with, the first version first. -/
def ages : List NamedTable := [
  ⟨["1.1", "v11"],
    .packed (
      "0Ny4uBkCh7Bb1amByq2i2413157111k1B817311111111idc1Bu1c1B59Bh22223s2822BjB2271B311B2a19cr5" ++
      "5n1e1311q5jde2C0251f1u2aOf31Bh2i253pg318222m171134211722239142152l7126422m17121212211542" ++
      "23b4117fc31711131m1712152a131321f15ah318222m1712242832238242134bh21633143211123233381345" ++
      "331491fce318131n1a1547131472924ai218131n1a154713147271124ai218131n1g46231491824aE1Bm4tB1" ++
      "2112211216417131111221d132511162a22MiB2aB3414Ci5Bw5CaDHiEb5Ci6m262B226281111111v2Bh1f1e2" ++
      "61j23191Bb1nz73rhbB1iuBlqBcdCjlGqe11DdDpB1rblDvlE6aC8gk6CeE14142s1z1114311727ev3o1eCGpBk" ++
      "711Cc462Cm6B44Cm1gCot3B0ss3Befc4Bb1Db4Cr2vHCxWImRPmHE6Fu7c56p151112121D0xK5gBs2BiB4cB04c" ++
      "l4a1j1443111Dr211Cm2Cm362626233717e3")⟩,
  ⟨["2.0", "v20"],
    .packed (
      "BNlh1dk1CNnC01x7r46111l3711EBt1On1BMCsLYcDDBe2CSAe2CSAe2CSAe2CSAe2CSAe2CSAe2CSAe2CSAe2CS" ++
      "Ae2CSAe2CSAe2CSAe2CSAeFKAy")⟩,
  ⟨["2.1", "v21"], .packed "IYc1CJBz1"⟩,
  ⟨["3.0", "v30"],
    .packed (
      "Ny4u82iD95Bd1a5Cf9j1D8131111111u1c1Bu1c1B6224Ck2Ec1Fk3Cq251f1B651e1u3rBhBdBPd21i3o191127" ++
      "31461118i3Kd1B71n371131f21Bcy151217346qLq71Br11142711142B311142v111427111427171n1v111427" ++
      "1B31j6szCdcRi9t3C9DzCl3amf1a6Cg8B6CBh1o6Cn3Be2Cd2C01Cv9Hh1Dd11uDu2Mp8x1Ce2L2H4BN4q1ChcFy" ++
      "qcBo331JtoQ8HAuWN6BGd3i2g1c1311XPy1BIj3")⟩,
  ⟨["3.1", "v31"],
    .packed (
      "BC42CQIqwBK0v14crF1B22B2CDSiGuaB33F0P6Cd1Bz122122241c1114121Bt1428171s141511371Je4I24BeK" ++
      "YgBTQfWF5P2BDRUr1uCo")⟩,
  ⟨["3.2", "v32"],
    .packed (
      "P41Ie1jdCw2s1E32Bl22222BdgJq2Ix1CNx2BQvd17bn9kcd1312CKr1654175d1Bq2Be7CafEocGqeDg1uBgHwk" ++
      "E7aCg8m2Cic2aG6eCis4gH4O8BL73Cf282Cm1GogC9fC9fBFDu2g1c131XJeBnZd13gBh2B81Gj2")⟩,
  ⟨["4.0", "v40"],
    .packed (
      "P51i3Db2BrhC8853E75Oc499Bs3E52f1B93t3M41F41Bv111Ds1Cc3d1Bv1Bn1Dl8Fd2DB31iaHat3c4c413B625" ++
      "CzwVcD0Un2Ge1Sb2Ie1Ho2D88e2BF2eBY72Bd1B72C64En4Cr2v1HB4BsBWDh1C12M7c1q1j121f2eyDf534B939" ++
      "Q0u11Dq2B2C82aXq6211B8123121CDLsCfK21BGUHyGo")⟩,
  ⟨["4.1", "v41"],
    .packed (
      "PrbHq5Ef4Gu2Eq1y3Bv1i1Bm6GpuOn1C81Nj1Bb1BBt2I7211He1Br1Br1B31v1v1v1f1B31n2vqBPyB66q6a42w" ++
      "s22XgCgS9217Bd5t4Bh1C81f1RwbPw1Ct2ib5gHi7Xb6GkBb1BbxCzeB9aBi91gn9717171717171717xo42ZugE" ++
      "u1BDW7mBZonGhB8WN0CyWuaWeC3OtB04eBRu41258131r434989CCPrByBF22")⟩,
  ⟨["5.0", "v50"],
    .packed (
      "Q2eIb3Jd1B66g4Em1OdBnKo212Y22d2DVxC44B9Q77Bf2Us4Cl2Bh1QncTu1Ho4Xd754Isd74BHNz452HyBkBAKg" ++
      "q51GGoYfE1Crd4BVVwiBEw2")⟩,
  ⟨["5.1", "v51"],
    .packed (
      "Yg422Cf1F31DwgGa5b5w5IeiNt2G61z1Fq1t2D01D01q282k8F9161t2c637Nn2Cp133C5151217346qBs42CF61" ++
      "U5B73cByBk3f3BfJ7sF14Ci6Jw1Dv1Cm1Bh4BK41la34Hc1v4Wj54B535Hs31346Juwo42jV81EikBEB48BL8Ick" ++
      "w2i8sDn52CzD25DkBx9cB2Ccb1EgBj9e2a24WXo3Y9cBgBaDmt3BdBSvq51CCRl1ILaB84Cs")⟩,
  ⟨["5.2", "v52"],
    .packed (
      "BKk2UaBa2fFd1C5161z2Dk1BPl4Fd4F85Bw5Ca6O81Ri9PkByF02Ba1BxBr1t2b6a6eP6zHe1Tc3E73Bi1Qu1T92" ++
      "t34a1j114oCf1BCd5Hq1d2Cz7Iv1BCycBDYc8BJoBcLkCgIoaEmsCst3C61b42Dks4Bvo5G8Ba2aLYun4BdJKv3D" ++
      "Uam19F62J0wDkBi3t2r58DkC1OvvO9BuIO6BDrBZQpb5v21b1112131358171p11221a421D31fye9BXL3EL9")⟩,
  ⟨["6.0", "v60"],
    .packed (
      "BKm2Gw1Bq1Ncs21G32j162r5O26M11g1j1Px4C12Yy2CHlBg84O41Sg8s1WnbUa1j114t142s1z1114392Bg3o1e" ++
      "1e2BO01e1BE03BFXh2Ib212eaC81Vi626269717WAjgFNyC64uXYoPtTC72RRif2e2f1fC811b1112131358171a" ++
      "6911221a421aC3q12Bb9l2Euxf61By3kcB115lhfBr111F2143BqioE351g1311111113162411241c4bBcByBmD" ++
      "8CALwG6")⟩,
  ⟨["6.1", "v61"],
    .packed (
      "BNj1D81Sj11bBjrNt1BBx2Nj151Bb3CXv3c6H48B74CZ0111BKk2Bf151Bk2FmaBFBk1BVb8z1Gq2m1C52UmnVRb" ++
      "2EEwBk62BY8p7a6Bh1eBoC17aBH2Bk8aYDaBxbBbghBIOo41r1211211a1411116141111113121121111111111" ++
      "21124171414111a1h53151hBg2Rk2BB84F81g1311111113162411241")⟩,
  ⟨["6.2", "v62"], .packed "IYq1"⟩,
  ⟨["6.3", "v63"], .packed "BRg1HEx4"⟩,
  ⟨["7.0", "v70"],
    .packed (
      "Yv1Ls8Cl2Da1Sj1b6C41Dc171Rr1Bf1C41Dj1GcaCM18P82L5fPt2GlfTp3Wu7Vh1BEk3aq2w2y3c18R67BGXp6G" ++
      "ucb322Bx1NkvDh4EwBc42WQh7Xx2j1Ivsz1BcB7KtB48Bgb1E0In9ma8GwBr89MwwwB34cDti74c7BI71FsB3Ce1" ++
      "c16kbi1B7D6Bn5a7318222m17121529222391572735HfC08aEmBi2iBiBxbaQ6Cbc1MgBlCI6B6Fmc51TCbv1a4" ++
      "2Cou26aByaa171l5jWA0Cz5d397a28LWcFh2gCE81wml2Osc91By1mcB11545ch7Bz111F2142Br247ti1B51CeB" ++
      "y2dBcByagd34DwCdB7c4Bk8a6B48u")⟩,
  ⟨["8.0", "v80"],
    .packed (
      "CJv2Ba1Ot1Js1H81BUt126DMo1Fn2CVs4BFRx9BW81Go1y6J02Qy4cC8WO62CY0j1255F822g2BaRsBfdBf76BI1" ++
      "4e5Eg711141f1bCe1C71RlkI2q3f4gDJt1GeFgIKkQ7BMEnbBRbS4f51fGS53C62C75B08H31C35Gr2Dv1Pz9Cv5" ++
      "Bn1CABrGE2")⟩,
  ⟨["9.0", "v90"],
    .packed (
      "CJy8mfZp1Fq14317n3ECv9Ka1BQn4CV02BHFd1Hq1YHb2W9B04B0DQa1MhCi1111OadBNn91B91eat3w2m1eWTd1" ++
      "vGO5jUzXGt71h271215CKtC35a42CGjiDy1X21B51Ic2x3P6618812c1c4fB2d")⟩,
  ⟨["10.0", "v100"],
    .packed (
      "CHkbL52H06O81Bm2EHu1H24Tp1X31CDm1Re5Uk1BEGvlBBDu3GG8C08Bg2n15Qt7121B83112198aWOv1RO0HxC9" ++
      "L0RIs6BFh2y2Ofcj18812p1idB26BknCGF5HZl")⟩,
  ⟨["11.0", "v110"],
    .packed (
      "BM81B31Cu1Ol3Fv1Ia1Db1L11Dj1DGz1BD3B723ECi3mp4fQb5Ug1BEHf5CD3182J02BAP82i1TbB48aMmB48B6K" ++
      "b1Da3Nw1I21Tf1GdBoQx1Tm6121B112167aImpVRrCjGY25UMukDi7GVkBwBFu1BP51G34Kc3s5243114obda72B" ++
      "0pCoe")⟩,
  ⟨["12.0", "v120"],
    .packed (
      "DKn1Om121211641717221d1DXb1EBa1Bh1Qf1BHFe625Zr2BBMgnBFc1Qo1Un82Ba2bEf2BL6Bed1FNk9QDw641B" ++
      "b9Ci2GP26LI03h4NAgB93e2a42K8Bm51BSr1BAdBpBDq1BMg1B01GdcI13Bb1Bd191B5632a63823BcCcs44353d" ++
      "6")⟩,
  ⟨["12.1", "v121"], .packed "NYn1"⟩,
  ⟨["13.0", "v130"],
    .packed (
      "CK6aS51Ly1Dg1DQ52EPq1Tc3Y85HQuaWMgdCDe4B62Bh1Wz4XOw1DNnB61322H2sKj1Dq2S2152BGu72128121u1" ++
      "22c9aBT21VYb1b2HK1NfB69BBJ83Cl3Bp1BKo2z2M32Ci1Ct142B6263t1Eo1e4fj7793d7B5E31BjB1aBUT17YJ" ++
      "uFH7")⟩,
  ⟨["14.0", "v140"],
    .packed (
      "BRh1Qiv1268l1ibY91w1Dj1CUf17191Gn1T5eDh1Bc2Rn1Tp1DDa1Bb1NvbBFBz3CD42e21115o3WXx1KlgDj1Ba" ++
      "2CAwb1f17121b1f1712Mj61B619CCtqGe6C41BQe1Dq7Y9gFS0CrPZxC71aSXq41712I04IEdBa2n9D8P92DP1vY" ++
      "hvBKx714121fEBq3Hk1Kw1Ca1Eu2B84a483h36887BVAf2EM54")⟩,
  ⟨["15.0", "v150"],
    .packed (
      "DO31N61CSBq3X33CK6aBC6h1B53sFS519tBIDw1y1JDmkDJl6H9Bqx1BE8B6EX61E7345Ch1Sj3f2B03b311e2a2" ++
      "c1e2BZMo1ZEuEMg")⟩,
  ⟨["15.1", "v151"], .packed "ND84Nr1HIXkRa"⟩,
  ⟨["16.0", "v160"],
    .packed (
      "CJ31FD22Bb1Hd2CC43DTm2BGGd3c3ZRnBgBZwB23t82Ii3Bj1BG3a11211B21a1121141a1282UtkBIkyeaY01FT" ++
      "hEGzHYdBmDHiBmIQ51RG0Gy6M4GIcB741FCya42Mn151Ba171l12191G9B1")⟩]

/-- The characters that there were in that version. -/
def ageTable? (name : String) : Option Table :=
  (ages.findIdx? (·.names.contains name)).map fun i => .unions ((ages.take (i + 1)).map (·.table))

end ChatCommand.Text
