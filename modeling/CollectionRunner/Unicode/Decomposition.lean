import CollectionRunner.Unicode.Mapping

namespace CollectionRunner.Unicode.Decomposition

/-- The parts of each code point that is only another way to write them. -/
def canonical : Mapping :=
  .packed
    ["WQ2_320_2n10rBA0bq190_i1tX70fWEn10zuFE0nqF324b90vtE40zjG_F2-j6skr10lhs110vWf210lZr110rZs11",
     "0bZb210bjr210Xoo210rsi110tsi110lxl210npp110dun210dyl210jnh210fgX210puy110Xjv110jru110pXu11",
     "0deq110Znd210p_b210vZa210npY210rjw110zwp110nol110nfr210jwo210nXd210bmZ210Zlv110Zmj110Xzj21",
     "0jpa210hrv110_xt110tbh210xqx110lmu110xbj210ZXf210_xb210zYZ210xbq110jwq210jtp210Xbp210tcg21",
     "0xbd210ZoZ210taX210bpy110zov110pjv110lqr110hWn110pyk110_pj110zgW210vx_110vvz110ftw110rZp11",
     "0Xij110rct110bcm210zZj210dk-110jiy110dkZ210vdW210hes110Zbn110Zdm210nkk210npd210btb210zZb21",
     "0_X-110nnz110hmn110_dp210liy110ltp210nup210pp_110nvz110jsw110dkn110pzs110teh210prd210zbt11",
     "0for210ltk210xqi210pzY210Z_X210tap210ncW210hwq210vxi210prr210tfc210X_f210la-110lwo210xmm21",
     "0tcX210fow110fit110hxc210Xyq110pkc210fdh210zex110fzg210XXY210nir210zWq210_wp210nle210df-11",
     "0vmx110rgt110zwp110pep210xpo210xWm210hfj210xxf210hua210rbW210nzn110vnl110Xlj110rhj110zkp21",
     "0fif210fXd210rYr110pnj210z_h210_uh210jlg210zcb210paa210rmY210ry_110Zwz110loy110Zdr110rgw11",
     "0jtq110Xbp110fup210plp210Xko210jja210xju110jlt110njj210xwi210nYh210j_c210ls-110ZZZ210dir21",
     "0_gn210byk210X_j210_ui210r_Y210fqY210fXz110psy110vtp110thn110rcn110tvm110pYr210lWW210bWq11",
     "0_ln110lji210dpr210Xkq210xyk210xtk210fYg210vxd210Z_Z210ztX210hiw110jqq110jZj110vpf210lvn11",
     "0xpp210vaf210hze210nec210zob210byY210ddY210bsW210zh-110Ztm110dcq210dwh210rrn110nwq210thk21",
     "0t-b210vgr110vaj210ffi210bye210dbZ210hrn110dxp210zyo210ptk210vyf210bff210ppe210xlc210xzY21",
     "0bWY210vcz110lnu110jmu110vXq110lmn110tgp210Zpb210_yo210xXa210jrY210h_v110xqn110rvk110drj11",
     "0vbf210pYc210xWy110to_110lj_110js-110ppZ210Zsa210dgt110vpr210lix110fyp210n_p210rrj210zoh21",
     "0vo-110zdl210jkc210Zrf210tir110txu110txn110zdu110lpj210tiq210vao230hxm220xvf230jZq210tkZ21",
     "0vqX210tjW210rhW210fhW210teW210hin110zr-110Xcz120xWw120pot130v-q110noq140rpm110zom110dmm11",
     "0ndk110_qq110ltn110Zer210pqq210fkq210psp210_qp210dkp210nfo210XZo210_yn210n_m210Zvm210jzk21",
     "0xyk210nwi210hji210Xhi210xai210Zlg210_bg210Zxf210zxe210xic210tYc210fob210pja210xXa210lYZ21",
     "0pxW210xmW210dmW210hmW210zlW210plW210dlW212fiW210dXW210dz_110hf_110bc-110za-110lX-110lkz11",
     "0hbz110zcy110d-x110f-x110lWx110_qu110riu110Xst110pot110Xvs110vrs110_gr110zYr110fun110pcn11",
     "0zYn110h_i210aea510fby130pas210thq210pmq210blr210zoq210flq210zwp210vtp210rjo210doo210Xko21",
     "0nfo210ZYn210pym210ppm210rom210xXm210nrl210_wj210pwj210rnj210ljj210xwi210npi210_ti210rli21",
     "0poi210nfi210lbi210nih210Zdh210vZh210ppg210vXg210rtf210ltf210xpf210tnd210tjd210hrc210vxb21",
     "0xyb210ltb210vdb210xoa210hlX210nca210_-Z210htZ210_YZ210tvY210lsY210jeY210heY210tzX210tyX21",
     "0dxX210zrX210psX210zzW210r__110vk_110bZ_110dr-110th-110btz110vgz110Xsx110fix110tpv110ftu11",
     "0Xpu110Zou110p_t110Zyt110_-t110rxt110zxt110Xzt110hut110hpt110nxs110pur110Xbr110roq110zaq11",
     "0pao110d-n110Ztn110xkn110rin110_hn110Xfn110rxl110Zpj110sts410ets410emy410fp_210rhz210rfz21",
     "0eth510q_m510u_X610fvj110rqj1df_30byqA10nyqA10XyqA10Xkx310dgqA10jbqA10raqA10fWqA10xupA10_s",
     "pA10bopA10tppA10xsXB10bzu310XipA10rhpA10tgpA10pfpA10hlv310prXB10vgpA10lepA10riv310_dpA10dd",
     "pA10vqqA10xcpA10hcpA10vZp110lYpA10rXpA10_pXB10f-oA10rzoA10_woA10twoA10zmXB10xroA10vroA10bq",
     "oA10xooA12dooA10dnoA10bkoA10tjoA10djoA10thoA10bhoA10ZhoA10bhoA10dhoA10lWt310fyZA10tcoA10lb",
     "oA10fjs310xaoA10naoA10fZoA10xvnA10fWoA10h_nA10jznA10xvnA10rqnA10ZpnA10_knA10XknA10XinA10Zi",
     "nA10xgnA10vfnA10hfnA10lenA10fpmA10hanA10hpmA10v_mA10rzmA10napA10bslA10demA10zbmA10jamA10pi",
     "mA10dYmA10hYmA10twlA10ftn310lslA10dslA10hrlA10bqlA10tplA10vllA10lxm310jtm310hdlA10lalA10vZ",
     "lA10velA10__kA10ntWB10tsWB10XskA10tokA10vokA10dgl310pgkA10hfkA10lekA10vdkA10nrk310bdkA10vc",
     "kA10XoiA10bbkA10flWB10jXkA10pWkA10nxjA10v-jA10jfj310npjA10jfj310_mjA10dnjA10dmjA12_fjA10db",
     "WB10jejA10vbjA10najA10xXjA10hYWB10hmh310xWWB10rziA10nziA10jziA10dyiA10vlg110ZviA10_rg310Xs",
     "g310Zfx910ZtiA10btiA10zy_A10zzY310xhh210jpiA10zoiA10lx_A10ZmiA10_iiA10jiiA10hgiA10zXiA10js",
     "_A10hu_A10zWiA10_ye310xzhA10xrhA10rrhA10prhA10vrhA10_ohA10vnhA10plhA10nmhA10zlhA10XjhA10xh",
     "hA10rhhA10ZghA10lfhA10jbhA10dWhA10Z-gA10jsgA10twc310ttgA10xxgA10brgA10npgA10njgA10vic310vf",
     "gA10rlgA10lngA10df_A10pbgA10hagA10lYgA10zagA10rb_A10ntfA10vrfA10_ha310lkfA10dzeA10defA10fx",
     "-A10xZfA10ly-A10v--A10_ppA10xppA10dzeA10nZfA10nYy910xlwA10XyeA10xxeA10nxeA10vteA10nueA10pn",
     "Y310fv-A10fkeA10rreA10zeeA10vbeA10hdY310hbeA10hieA10ZzdA10pq-A10hwdA10hqdA10_ldA10badA10na",
     "X310ZXdA10hj-A10xycA10naW310vvcA10dg-A10XucA10frcA12rpcA10pc_210v-j310z_-210tgcA10zZ-210vZ",
     "cA10_YcA10jfcA10n-bA10ZybA10pubA10XybA10pvbA10tubA10_tbA10l-z210bzbA10njbA10rfbA10jzzA10_Z",
     "bA10fabA10tZz210fnbA10XwaA10Zxy210buy210tqaA10pjaA10hlaA10plaA10_tzA10viaA10rfaA10ZgaA10vc",
     "aA10h_v310jzZA10phx210ZuZA10dtw210llZA10tkZA10ZjZA10rnv210dgZA10_eZA10X_u210bnu210xwYA10xv",
     "YA10xdzA10huYA10ddzA10fdzA10jkYA10bjYA10zhYA10tgYA10lcYA10lXzA10_WYA10zls210l_XA10fgs210ly",
     "XA10pvh310poXA10pvq210duq210nlq210ZqyA10jpyA10taXA10xaq210_aq210pYq210XXq212jYXA10lYXA10x_",
     "WA10_myA10zxWA10fmyA10hhyA10_oo210_lWA10biWA10deWA10xcyA10ton210v__910phn210_en210jy_910ts",
     "_910nYyA10nn_910_m_910tm_910_zl210hhl210jhl210Xd_910xrxA10hxk210tv-910pv-910vpxA10fkk210df",
     "-910jixA10_d-910he-910pc-910f-i210nW-910tcxA10jwz910vsz910roz910vZxA10pqh210toh210rXxA10tf",
     "h210t_y910nZh210b-y910zty910fty910Xgg210nbg210vny910hzf210zmy910XYZ310twwA10_iy910_dy910nt",
     "wA10jay910XjlA10_ze210bze210h_Y310x-Y310pux910lux910z-q910bowA10xlx910fmx910dlx910zjpA10Zk",
     "x910Xkx910ljx910_gx910rbd210bhx910tdx910jZx910x-w910ndx910_zw910jxw910lqw910vax910jzw910hz",
     "w910jyw910xsc210pZc210Xjc210tdwA10jhw910hhw910dfw910X-Y210law910Xeb210XbwA10xawA10z_a210zj",
     "a210jawA10bsv910lrv910xqv910vqv910xmv910_ov910rgv910ljv910Zav910dfv910Zbv910lZv910l-vA10zz",
     "u910_xu910nyvA10bsu910Xsu910xrX210zku910nku910bvvA10ziu910zmYB10vnW210hcW210zmvA10jmvA10zo",
     "t910bkt910jat910vts910ro-110nos910dns910rhs910_bs910ngz110fzu310zWs910zXs910t-r910zlu310pm",
     "r910jgr910xWw110d_v110xqq910Zlq910bjq910jhv110riq910zwp912Xnp910xsp910Z_o910jzo910b_s110bc",
     "o910pbuA10nZo910pds110tWuA10_on910ZakA10Zjn910Xhq110vzp110putA10butA10pXn910X_o110pqtA10js",
     "o110b_m910d_m910jzm910rao110_nm910_itA10rjm910xbm910dam910nWm910pZtA10njl110lll910ryk910zm",
     "k910zpsA10XosA10lgk910Zqi110nnsA10vmi110fWi110buh110prj910_hsA10xnj910pnj910dnj910rmj910fm",
     "j910Xkj910vXg1"]
    ["W62z7-h112_7Wi112X8Yi112Z8ai112b8ki112d8oi122d8ek112b8sh112d8uh112f8wh112h8ci112b8kh112d8m",
     "h112f8oh112h8-h122b8gh112b8Yh112d8ah112f8ch112h8eh112j8oh132d8sg112f8ug112h8wg112j8ch112d8",
     "mg132z7-f112_7Wg112X8Yg112Z8ag112b8kg112d8og122d8ei112b8sf112d8uf112f8wf112h8cg112b8kf112d",
     "8mf112f8of112h8-f122b8gf112b8Yf112d8af112f8cf112h8ef112j8of132d8se112f8ue112h8we112j8cf112",
     "d8me122h8-e112zBci112_9cg112XCgi112ZAgg112bCkk112dAki112bCyh112dAyf112fC-h112hA-f112jCei11",
     "2lAeg112nCoi112pAog112pCmi112rAmg132vC-h112xA-f112zCYi112_AYg112XDai112ZBag112bDck112dBci1",
     "12fDki112hBkg112fDsh112hBsf112jD-h112lB-f112nDWi112pBWg112rDWk112tBWi112tDqh112vBqf132zDqh",
     "112_Bqf112XEsh112ZCsf112bEwh112dCwf112fE-j112hC-h112jEyh142pEmh112rCmf112rEuj112tCuh122vEg",
     "h112xCgf112zEsj112_Csh112XFWi112ZDWg152fFch112hDcf112jFoj112lDoh112nFyh112pDyf142vFgh112xD",
     "gf112zFkh112_Dkf112XGuh112ZEuf132ZG-g112bE-e112dGgj112fEgh112hGqh112jEqf112jGyg112lEye112n",
     "G-g112pE-e112rGej112tEeh112vGoh112xEof112xGcj112zEch112_Gmh112XFmf132bHyg112dFye112fH-g112",
     "hF-e112jHYh112lFYf112nHgh112pFgf112rHih112tFif112vHcj112xFch112vHsg112xFse112vHog112xFoe11",
     "2zH-g112zHkg112_Fke112XIwg112ZGwe112bIah112dGaf1Y12XLui112ZJug1E2pLii112rJig1T2tOsi112vMsg",
     "112hOci112jMcg112ZOwh112bMwf112xNkh112zLkf113_Nch1713XMcf1713ZOch1D13bMcf1D13dOch1813fMcf1",
     "813hOch1F13jMcf1F23vPki1713xNkg1713zPii1513_Nig1512tHyZ112vFyX132zPgi112_Ngg112vPYi112xNYg",
     "112rPoj112tNoh113vPoj1d213xNoh1d212j3gL12cAq712hOag142vQqh112xOqf132pQah112rOaf113nRoi1H13",
     "pPog1H12hJsZ112jHsX112hIoY112jGoW112zRyi112_Pyg112XSWj112ZQWh112zRqi112_Pqg112XSui112ZQug1",
     "12zRii112_Pig112XSmi112ZQmg112vRWi112xPWg112zRai112_Pag112xRwh112zPwf112_R-h112XQ-f112zRqh",
     "112_Pqf112XSuh112ZQuf112fScj112hQch112hSaj112jQah132hTei112jReg172fUii112hSig112bUak112dSa",
     "i113rToh1713tRof1713vTeh1213xRef1212zTmh112_Rmf113XUmh1513ZSmf1512nTsg112pRse1n82t3DX22vj1",
     "ob112M_822Qd912Sh912Ul922c1x922k1dA12q1lA13o2XBDQ2X1X912Bv912A_A12GdB12IhB12KlB13g1vBDQ2X1",
     "XB12BvB12PxB12FdC129lC521XD123pCi12g1fH12e1vG22W1ZH421xF52SnH12MlH12g1vHB21ZHW121ZJN2r1fJ1",
     "2t1vI22_1ZJ421xK52Z2nJ12f2lJ12r1vJO23fM123hMg22rA_G12t8_IE2_BpG12XApI12ZClG12bAlI32XCzG12Z",
     "AzI323_S123XT12hCxG12jAxI12jCzG12lAzI32pCdH12rAdJ12tC_G12vA_I12lChH12nAhJ323_T123XU12zBfI1",
     "2_9fK12rCzH12tAzJ12vCrH12xArJ12zClH12_AlJ12vCzH12xAzJ32vCbI12xAbKf92Au2128w212e2O124y212e2",
     "Kw42g1X8221v6H21x7sI21e1821O321Ia12b4k212b4i212b4g212z3W212r3s112r3q112b3Y112_2Qi327H129W1",
     "G2r3s112r3q122_2Qq221K3248Z12b4i212b4g212z3W232b3Y1g721U327H129W1G2r3s112r3q1t123g4s127F12",
     "7H12BY1y323W1u321i1721U123W122771397c1_327F127H12BY1k421T225J137J9129CbB21g7A21s6521i6521Y",
     "6521u5D2n2g7A232227612u3Z322s3b392VUI21g2A21s1521i1521Y1521OD2n2g2j321IWt221W3221y2221u222",
     "1q2221m2421e2f1219221D323H123J221PzL2zxEek112_vEei112_xEgi112XwEgg112ZyEYk112bwEYi112dyE-k",
     "112fwE-i113fyEek1h213hwEei1h212hyEci112jwEcg112lyE-j112nwE-h112pyEwk112rwEwi112tyEck112vwE",
     "ci112xyEok112zwEoi113zyE-h1713_wE-f1713XzE-h1513ZxE-f1512bzEmk112dxEmi112fzEsk112hxEsi113j",
     "zEak1X213lxEai1X212lzEYi112nxEYg112nzEwh112pxEwf112pzE-h112rxE-f112tzEsj112vxEsh112xzEWi11",
     "2zxEWg112_zE-j112XyE-h112Z-Eik112byEii112b-Ekk112dyEki113f-E-h1D13hyE-f1D12f-Eih112hyEif11",
     "2j-Emj112lyEmh112n-Eik112pyEii112p-Ekj112ryEkh113t-Ekj1z113vyEkh1z112x-Egk112zyEgi112_-EYk",
     "112XzEYi112X_Eeh112ZzEef112b_Eqh112dzEqf112f_Eij112hzEih112h_Eoh112jzEof112l_Egj112nzEgh11",
     "2p_Eck112rzEci112t_E-j112vzE-h113v_Eeh1313xzEef1313z_Eeh1A13_zEef1A13XWFgh1713Z-Egf1713bWF",
     "gh1513d-Egf1512dWFYh112f-EYf112hWFkh112j-Ekf112hWFgh112j-Egf112lWFYj112n-EYh113pWFYj1z113r",
     "-EYh1z112tWF-j112v-E-h112vWFeh112x-Eef112zWFWj112_-EWh113XXFyg1C13Z_Eye1C13bXFoh1913d_Eof1",
     "913fXFWj1t113h_EWh1t112hXFch112j_Ecf112lXF-i112n_E-g112pXFwj112r_Ewh112tXFoj112v_Eoh112vXF",
     "-i112x_E-g112zXFsj112__Esh112XYFmj112ZWFmh113bYFyg1313dWFye1313fYF-g1813hWF-e1812hYFwg112j",
     "WFwe112lYFwi112nWFwg112nYFog112pWFoe112rYFqg112tWFqe112vYFYh112xWFYf112zYFWh112_WFWf112XZF",
     "ui112ZXFug112ZZF-g112bXF-e112dZFWh112fXFWf112fZFyg112hXFye112hZFmg112jXFme112lZFoi112nXFog",
     "112pZFkj112rXFkh112xYFoi112bYFef112XYFcf112_XFYf122tnEmO52zbFak112_ZFai112XcFmi112ZaFmg113",
     "bcFYi1113daFYg1113fcFYi1313haFYg1313jcFYi1E13laFYg1E13ncFYi1213paFYg1213rcFak1X213taFai1X2",
     "13vcFgi1913xaFgg1913zcFgi1B13_aFgg1B13XdFgi1613ZbFgg1613bdFgi1513dbFgg1513fdFak1v113hbFai1",
     "v112bdFyj112dbFyh112fdFei112hbFeg112jdFyh112lbFyf113ndFwh1113pbFwf1113rdFwh1313tbFwf1313vd",
     "Fwh1E13xbFwf1E13zdFwh1213_bFwf1213XeFyj1X213ZcFyh1X212zdFWi112_bFWg112XeFqj112ZcFqh112vdFe",
     "j112xbFeh112zdFqh112_bFqf113XeFch1113ZcFcf1113beFch1313dcFcf1313feFch1E13hcFcf1E13jeFch121",
     "3lcFcf1213neFej1X213pcFeh1X213reFui1p113tcFug1p113veFui1r113xcFug1r113zeFui1Z113_cFug1Z113",
     "XfFui1l113ZdFug1l113bfFui1G13ddFug1G12zeFyi112_cFyg112XfFeh112ZdFef113bfFii1p113ddFig1p113",
     "ffFii1r113hdFig1r113jfFii1Z113ldFig1Z113nfFii1l113pdFig1l113rfFii1G13tdFig1G12nfFkg112pdFk",
     "e112rfFqi112tdFqg112vfFWh112xdFWf112zfFqg112_dFqe172zqDx912_qDv913XrDx9b113ZrDv9d113brDx9Z",
     "113drDv9b113frDx9-213hrDv9y212jtDx712ltDv713ntDx7b113ptDv7d113rtDx7Z113ttDv7b113vtDx7-213x",
     "tDv7y212rrDZA12trDXA13vrDZAb113xrDXAd113zrDZAZ113_rDXAb132buDZ812duDX813fuDZ8b113huDX8d113",
     "juDZ8Z113luDX8b132nsDdA12psDbA13rsDdAb113tsDbAd113vsDdAZ113xsDbAb113zsDdA-213_sDbAy212XvDd",
     "812ZvDb813bvDd8b113dvDb8d113fvDd8Z113hvDb8b113jvDd8-213lvDb8y212jtDhA12ltDfA13ntDhAb113ptD",
     "fAd113rtDhAZ113ttDfAb113vtDhA-213xtDfAy212zvDh812_vDf813XwDh8b113ZwDf8d113bwDh8Z113dwDf8b1",
     "13fwDh8-213hwDf8y212XuDtA12ZuDrA13buDtAb113duDrAd113fuDtAZ113huDrAb132nwDt812pwDr813rwDt8b",
     "113twDr8d113vwDt8Z113xwDr8b132ruDZB12tuDXB13vuDZBb113xuDXBd113zuDZBZ113_uDXBb113XvDZB-213Z",
     "vDXBy222dxDX923hxDX9d123lxDX9b123pxDX9y212jvDhB12lvDfB13nvDhBb113pvDfBd113rvDhBZ113tvDfBb1",
     "13vvDhB-213xvDfBy212zxDh912_xDf913XyDh9b113ZyDf9d113byDh9Z113dyDf9b113fyDh9-213hyDf9y212zx",
     "DXB12_xD_A12vxDfB12xxDdB12vxDjB12xxDhB12vxDnB12xxDlB12nxDzB12pxDxB12fxDfC12hxDdC12bxDnC12d",
     "xDlC33zyDx9a313_yDv9Y314XzDx9b1g414ZzDv9d1g414bzDx9Z1e414dzDv9b1e414fzDx9-2614hzDv9y2613j_",
     "Dx7a313l_Dv7Y314n_Dx7b1g414p_Dv7d1g414r_Dx7Z1e414t_Dv7b1e414v_Dx7-2614x_Dv7y2613nzDdAa313p",
     "zDbAY314rzDdAb1g414tzDbAd1g414vzDdAZ1e414xzDbAb1e414zzDdA-2614_zDbAy2613XWEd8a313ZWEb8Y314",
     "bWEd8b1g414dWEb8d1g414fWEd8Z1e414hWEb8b1e414jWEd8-2614lWEb8y2613jzDhBa313lzDfBY314nzDhBb1g",
     "414pzDfBd1g414rzDhBZ1e414tzDfBb1e414vzDhB-2614xzDfBy2613z_Dh9a313__Df9Y314XWEh9b1g414ZWEf9",
     "d1g414bWEh9Z1e414dWEf9b1e414fWEh9-2614hWEf9y2612z_DrA12__DvA13XWEXBg412ZWEt613bWE_Ae422fWE",
     "z613hWEz6612jYEr812lYEv812nYEX912pYE_812rYEt452nnFqf113rWEjBg412tWEZ713vWEhBe422zWEf713_WE",
     "f7612bZEf912dZEd912bZEj912dZEh912fZEZ512RzhE12TxhE12VvdE12jXEbB12lXEfB13nXEXBF13pXEXBD32vX",
     "Ej713xXEXBq312zZEb912_ZEf912XaEn912ZaEl922Y2xlE12W2vlE12-1thE12rXEzB12tXEXC13vXEvBF13xXEvB",
     "D12bYExA12dYEvA12XYEb813ZYEvBq312baEz912daEXA12faEfA12haEdA12raEv812fqFmb112hqFob143nYEnCg",
     "412pYEd813rYElCe422vYEj813xYEj8612nbEz912pbEx912XbEnA12ZbElA12bbEd6l92pkGoi1l32JlbF12HpbFJ",
     "2p1tbFV26lfF12CtfF126pfFr121riF521_iF321bjFO21rkF221vkFR29dmF321rmF323vmF221_mFN2bYHsl1221",
     "noFB2_1fnF12ZZHul112XZHql112NtoF12NvoF323ppF123rpF323xpF123zpF72BZqF12BbqF323pqF123rqF323x",
     "qF123zqFZ12JpsF129_sF129XtF127btFn12d6dqF12d6fqF12X5nrF12X5prF72l3ptF12l3rtF12l3ttF12l3vtF",
     "l_122fwJmh121y4221u4221q4221m4221i4221e4221a4221W4221y3221u3221q3221m3321g3221c3221Y3721q2",
     "123s2221k2123m2221e2123g2221Y2123a2221y1123-1N2x4c5A217E21Z1221d1221h1221l1221p1221t1221x1",
     "221_1221Z2221d2221h2221l2321r2221v2221z2721h3123f3221n3123l3221t3123r3221z3123x3221Z4123X4",
     "N2x4P32Fh512Fj512Fl512Fn5421d6_mo12dqw3f222vow3r3B2Xqw3l212Zqw3j213bqw3v2A13dqw3v2C12xrw3n",
     "112zrw3l112_rw3d112_rw3f112_rw3h112_rw3j112_rw3l112_rw3n112_rw3p122_rw3t112_rw3v112_rw3x11",
     "2_rw3z112_rw3_122_rw3Z222_rw3d212_rw3f222_rw3j212_rw3l222_rw3p212_rw3r212_rw3t212_rw3v212_",
     "rw3x212htw3t112rtw3Z112Ztw3t112psw3f2xp22IriX4R2JbjX4sr221Y2221-1F2Bg1Z426J126LyG27H129W1t",
     "121k4221k3925k3321o3q1250229J12BEp7232125H2298y723H123JzR259f_H250127M129212AJ12D413F0213H",
     "MJ13J04WY321012B813D80q_O2DS12DQ13FQI13HQK13JQM13LQO13NQQt223d5123f5137d5I137f5I13Bd5K13Bf",
     "5K"]

/-- The parts of each other code point that looks or sounds like them. -/
def compatible : Mapping :=
  .packed
    ["W50_7A0n482_720km140l810r4b60tGn90la110r410la110Xa110r310p310f310_Z110zZ1e10v710fd110zc110",
     "rc110z4i70x110n110v230T10h1Q0h312_220t510_340h5pu201mF0_1mX30rkE10jcE13tkE10tkE10dwD1EtkE2",
     "0vkE10rnD10xkE10vkE12tkE10rkE10ZkE12dlD10d410fkE12dkE10XlD12_kD10hkE20dkE10bkE10hWE10bkE10",
     "zlD12x310hkE12bkE10t310rkD10fkE10j314rwC12pvC10nlE10XlE12zkE12dxC10jwC12bwCE0rpCZ10nqD10np",
     "E10lqD10xgE10bqD10ppE10ZqD10XqD10xpD14tpD10t210rmD10tpD10f210tmD10rpD10vpD16tpD10ppD12XpD1",
     "0pWE12voD10t912xoD10XqE14toD10jWDXI0_zF10X-F10Z-F10b-F10d-F10f-F10h-F10j-F10l-F10n-F10p-F7",
     "01J0h_FB0zWGm10zZGH0_ZG10lWG3A_ZG10zaG10kP10zZG12fbG10XXG1I_aG10zbG10kO10zaG12fcG20zYG10tY",
     "G10bYG10rXG10rZF10vYG16rYG10pYG12lYGc30zhG50jtF30bgG10biG10diG10fiG10hgG10l-F10jiG10liG10h",
     "iG10jgG20jiG44niG10piG10riG70piG40xiG42pkG20piG12rkG20hkG10fiG16fsD10_iG30ttE10puE10rwE10z",
     "vE10YD50XmG12ZkG12zjGN0jnG40xmG50XnG30_nG12poG10ZoG10jmG40xlG50XmG30_mG12pnG10ZnGXNGzYIk2o",
     "1fdI1o1zcI10phIoy10ZXM10jYMo70Rm90yoUq20ugu1D0WmF10koF10epF10upF10grF10WuF10iuF10ovF10axF1",
     "0iZH10sbH10WcH10idH10oeH10wfH10YjH10gkH10-kH10ouH10i-H10YWI10gWI10aYI10qYI10eaI10WbI10mcI1",
     "0sfI10ugI10iiI10oxJ10WWK10syK10Y-K10m-K10a_K10cWL10yaL10qYM10obM10WjM10ikM10mlM10wmM10aqM1",
     "0eqM10wgN10ihN10YiN10wiN10WqN10kqN10sqN10-xN10myN10ezN10szN10kXO10kYO10mZO10keO10siP10mlP1",
     "0umP10--Q10c_Q10gaR10ebR10WcR10edR10qfR10yfR10mwR10-xR10yzR10gzT10iXU10uYU10gcU10udU10eeU1",
     "0qeU10whU10YiU10WkU10inW110ejX110-jX110ckX110ikX110wkX110ylX110-lX110-qX110iYY110qYY110utY",
     "110guY110ixY110uxY110eyY110syY110gYZ110sYZ110ymZ110enZ110eqZ110erZ110auZ110yca110eda110eea",
     "110qya110kab110uab110Ymb110krb110eub110wlc110Yuc110yxd110mzd110WXe110aae110gee110-ee110efe",
     "110ehe110-le110mme110Ycf110kcf110-cf110kdf110ief110eff110kff110gkf110mkf110wkf110Yih110yjh",
     "110ahi110whi110cji110w-i110o_i110-Zj110ucj110agk110Whk110yhk110Wkk110emk110qyk110gzk110kXl",
     "110yml110uol110u_l110WXm110eXm110-km110iwm110aYn110kYn110sYn110Wzo110mzo110cdp110ump110ymp",
     "110upp110ewp110Wxp110cxp110oxp110qXq110sZq110Waq110waq110clq110goq110moq110yzq110W-q110a_q",
     "110wkr110unr110aor110ksr110Wtr110atr110str110mvr110aos110Yht110qht110-jt110elt110slt110emt",
     "110kmt110yot110Ypt110Yqt110gqt110Yrt110sst110ott110Wut110qxt110myt110syt1h10_zNs10d220omH1",
     "2smHt72XZG10nuF10ZZG12nuF14dZG1ApuF10hYG14rZG10bYG1ItZG1e1x-F10dWG12XbG12_vF10vvF10tvF10lv",
     "F10fvF10dvF10ZbG10ZvF10XvF12dbG10bbG12ZbG10zaG10xaG18vaG10raG10laG10zZG10nZG10fZG12XvF14vY",
     "G12bWG10XWG12n_F10l_F10z-F10v-F40ycE10olE10gdE10iqI10edE10ifE10cdE10ovX110-hE10ydE10gcE10u",
     "uJ10avI10snEb50smH10kZM10YqP10mqa1P0_rG12zrG14xrG10vrG12trG18rrGJ0WuD10sWE10kuD10mbI10WXE1",
     "0mkF10wtD10ekF10gzD10mhG10ydQ10W-U10mwS10sfQ10cql110WfI10grP10ovQ10kdQ10sgZ110otG10e-V10sW",
     "j110iiZ110uXG10-pZ110wfX110mjJ10wyk110weF10ajG10oaT10gso110WdE10klF10WiS10isD10muD10gsD10-",
     "pL10sqG10afG10wkK10shK10kZY110ebE10oXj110ggG10ucJW10xY110vY110tY110rY112pY110nY110lY110jY1",
     "10hY110fY110dY110bY110ZY110XY110_X110zX110vX110tX110rX11ApX110lX110hX110dX110ZX118_W110zW1",
     "10xW11AvW116tW1-yS0Zbn210Xbn2p601X40xvp210zwp210vwp210bwp240Zjp210hgp2ZR0fZ210h210blq210PA",
     "0tjq2tzJ0xpw310Xrw312zqw314nqw310zpw310xpw310xlz3d10zjw310_jw310jjw310ljw310njw310pjw310lj",
     "w310njw310pjw310rjw310pjw310rjw310tjw310vjw310dkw310fkw310hkw310jkw310bkw310dkw310fkw310hk",
     "w310vkw310xkw310zkw310_kw310hiw310jiw310liw310niw310liw310niw310piw310riw310xkw310zkw310_k",
     "w310Xlw310blw310dlw310flw310hlw310dlw310flw310hlw312jlw310llw310nlw310plw310flw310hlw310ll",
     "w310nlw310llw310nlw310_lw310Xmw310Zlw310blw310rlw310tlw310fkw310hkw310jkw310lkw310bkw310dk",
     "w310fkw310hkw310bkw310dkw310fkw310hkw310nkw310pkw310rkw310tkw310dkw312fkw310hkw310jkw310lk",
     "w330fkw310hkw310jkw310lkw310tkw310vkw310xkw310zkw310tjw310vjw3a10how310jow310low310now310_",
     "mw310Xnw310bnw310dnw310bnw310dnw320bnw310dnw310rnw310tnw310nnw310pnw310dnw310fnw310hnw310j",
     "nw310zvw310_vw3J0_ow310Xpw310Zpw310bpw3nG0d--312_Wd312nz-310d_-310jz-312XWd3P0vXl310zXl310",
     "dz-310fz-312vW_310tx-310rx-312fYd312rYd312bZd312jZd316fZd330t--310r--350x--310z--310_--310",
     "dY_310_ad310dY_320nX_310rX_310jX_310hZ_310dal312XZ_310_z-310zz-312nad310tZ_310pZ_312jZ_310",
     "hZ_310lY_310jY_310nY_320tW_312fa_310rY_3L0zby3D0hcy312jcy310lcy310ncy312pcy312rcy310tcy310",
     "vcy312xcy310zcy310_cy312Xdy310Zdy310bdy312ddy310fdy310hdy312jdy310ldy310ndy312pdy312rdy312",
     "tdy312vdy312xdy310zdy310_dy312Xey310Zey310bey312dey310fey310hey312jey310ley310ney312pey310",
     "rey310tey312vey310xey310zey312_ey310Xfy310Zfy312bfy310dfy310ffy310hfy310_ey310Xfy310Zfy312",
     "bfy310dfy310ffy312hfy310jfy310lfy312nfy310pfy310rfy312tfy310vfy310xfy312zfy310_fy310Xgy312",
     "Zgy310bgy310dgy312fgy312hgy312jgy310lgy310ngy310pgy3Dw5_j_312pzg310zrd312hrd310bsd310pcd31",
     "0ddd310hid310fid310did310bid310Zid310ned310led310jed310tgd310ddd310zid310xid310vid310tid31",
     "2rid310pid310nid310lid310jid310hid310fid310did310bid310Zid310Xid310_hd310xhd310vhd310thd31",
     "Arhd310nhd310jhd310fhd310bhd318Xhd310_gd310zgd31Axgd310vgd310pgd312fmd310_Zt312Xgt310n_s31",
     "0Zgt312n_s314dgt31Ap_s310hft314rgt310bft31Itgt34AXct33Abct33Afct334jct342xp_310hp_320xp_31",
     "0_p_310vpl320hkj316nbl310vaj310bYj3py12XhY410vfZ410rkY410ZpY420dkY410ZYk110dkY410hkY412fpY",
     "410t_q310hpY410XpY410jkY410voY410_oY410bpY410nlY410xcZ410plY410_oY410dnY412zkY410zoY410msh",
     "310zWm110_oY410ish310ZnY410gsh310pgZ412voY410dpZ410toY410Ysh312roY410poY410bmY410hmY410hak",
     "110jmY410joY410zpj320boY412ZnY410vnY414h_Y410Yrh310esh3yen1o1ffc71I_hc7du1o1zxf71o1nxf71o1",
     "b_f71Cv-f72Y1v-f71o1jYg71o1XYg713rbg710rbg730rbg732rbg736rbg72Erbg716fbg723fbg71Afbg72Kfbg",
     "71o1zeg71o1neg712big726big73Ebig72Cbig72o1vhg712jlg726jlg728jlg720jlg74Cjlg72o1Xlg71o1rog7",
     "1o1fog71o1zrg71o1nrg71o1bvg71o1vug71o1jyg71o1Xyg71o1r_g71o1f_g71o1zYh71o1nYh710btg710xcg73",
     "W1jnf710Xof71Cjnf710phw61m1Xnf710njw610jof710fof710dof710nnf710znf710Xof71W1Xrf710rrf71CXr",
     "f710dlw61m1rqf710bnw610Xsf710zrf710xrf710brf710nrf710rrf71W1ruf710fvf71Cruf710xow61m1fuf71",
     "0vqw610rvf710nvf710lvf710vuf710bvf710fvf71W1fyf710zyf71Cfyf710lsw61m1zxf710juw610fzf710bzf",
     "710Zzf710jyf710vyf710zyf71W1z_f710nWg71Cz_f710Zww61m1n_f710Xyw610zWg710vWg710tWg710XWg710j",
     "Wg710nWg712x-f73Ixvh71Ilwh71IZxh71Itxh71Ihyh7nX2G__j714z_j71Kx_j710t_j712r_j710Xyy410Ztj71",
     "0h_j710f_j710fsj710_vj710Xuj71GXYk712_Xk712xXk710vXk71AtXk712rXk710hzj710ZXk710dXk710rWk71",
     "0_xj710rXz410txj7pi32nzp710hzp710dzp720vxp710dzp710pzp710Xzp710zxp716jyp710rzp710hzp710zyp",
     "710tzp710_yp710Z-p710_zp712r-p710n-p710l-p710b-p710Z-p710X-p710xwp710bsp710vtp710_wp720n_p",
     "710h_p720vzp730p_p720zzp716j-p710r_p710h_p710z-p710t_p710_-p720__p712rWq710nWq720bWq720XWq",
     "770hXq750pXq720z_p723jWq710rXq710hXq720tXq710_Wq720_Xq730nYq720bYq720XYq720bwp720_-p720nZq",
     "710hZq720vXq730pZq710XZq710zXq713jYq710jYq710rZq710hZq710zYq710tZq710_Yq720_Zq712raq710naq",
     "720baq710Zaq710Xaq710xWq720vzp722nbq710hbq710dbq712vZq710dbq710pbq710Xbq710zZq724jaq710rbq",
     "710hbq710zaq710tbq710_aq710Zcq710_bq712rcq710ncq710lcq710bcq710Zcq710Xcq760ndq710hdq710ddq",
     "720vbq710ddq710pdq710Xdq710zbq724jcq710rdq710hdq710zcq710tdq710_cq710Zeq710_dq712req710neq",
     "710leq710beq710Zeq710Xeq7mJ0lku710pju74o1zku7v50vqW7E0fyd610phh610hal620lun610rli610bZq510",
     "xki610dtn610n_b610nlW610Zec610zyl610Xff610Xfm610zcc610bWm610zjw510bm-510pto510dpi610t-k610",
     "ZnX610Zvd610bjd610nYo610XYo610X-m510hag610__n610rZl610lod610_ho510xzd610Xhy510nxx510tYl610",
     "fxX610vob610zob610fm-510jyl610dek610xkm5L0nhf610Zcl6_i2I_xz7"]
    ["e52l8mk172z8ek152d9Yk142l9km143r8cXG_WG13t8cXGZXG13r8YXG_WGq32nE212pC2C2bFs612dDs492cNxa1x",
     "33_Ni1ah113XOi3af113ZMi1af112rN312tNy112vL312tN712vNu112xL7b12vQi112xQi312zOi1b72lh1ik112n",
     "h1kk112ph1qk112rh1mm112th1ck112vh1sk1z42pr1go1A2ds1Yk113fs1mk1Dk22x2dA12z2v9pD2Z2w1k72x4w4",
     "12x2u212W5b512x2q2xz12q1r1W42q1r1f12X3Z112Z3Jw43s3X4U23q3Z4UXv32nZFwb112lYFef1Y92vvFcl122z",
     "vFcl112_vFao113XwFmk1q3C3vwFcl1b113xwFcl1Z113zwFcl1-2E3vxFel1d113xxFel1b113zxFel1y2E3vyFmk",
     "1F13xyFmk1DF2vzFYk112xzFel1P2j_Fcn1E2j_F013l_F00D2101330022101330052rXG022xXGgk192lWG012nW",
     "Gx112lYGy1E4f2000n22hbGY2u23zfGZ3e313_fGZ3e422bbGv623ZgGd3W413bgGd3i432nbGp6D2liGY2A2viGB1",
     "3viGTE12xiGDP3flG9k1L3znGcXGvWG13_nGcXGrWG14XoGcXGbXG113ZoGcXGXXG13ZoGaXGXXG13doGcXGzWG13d",
     "oGaXGzWG13doGYXGzWG13doGWXGzWG13loGcXGxWG13foG-WGxWG13poGcXGtWG13noGYXGtWG13loG-WGtWG13joG",
     "wWGtWG12xoGcXG22lnG013nnG0012pnGQ22zmGP13_mGP014XnGP0012znGU22ZnGT13bnGT062lmG013nmG0012pm",
     "GQ22zlGP13_lGP014XmGP0012zmGU22ZmGT13bmGT0E3nrGeXGXXGZ521013300221013300vH2lZI112nZI012pZI",
     "212rZI412tZI612vZI812xZIA12zZIC12_ZIE12XaIG12XaI313taIIF13vaIKH13xaIMJ13zaIOL13_aIQN13XbIS",
     "P13ZbIUR13bbIW1T13dbIY1V14fbII1D14hbII0F14jbII2H14lbII4J14nbII6L14pbII8N14rbIIAP14tbIICR14",
     "vbIIET14xbIIGV14zbIK3D12jbI512jbI712jbI912jbIB12jbID12jbIF12jbIH12jbIJ12jbIL13_bI1313XcI05",
     "13ZcI2713bcI4913dcI6B13fcI8D13hcIAF13jcICH13lcIEJ13ncIGL13ncI3313ddIo3l313fdIq3n313hdIs3p3",
     "13jdIu3r313ldIw3t313ndIy3v313pdI-3x313rdIW4z313tdIY4_313vdIa4X413xdIc4Z413zdIe4b413_dIg4d4",
     "13XeIi4f413ZeIk4h413beIm4j413deIo4l413feIq4n413heIs4p413jeIu4r413leIw4t413neIy4v413peI-4x4",
     "13reIW5z413teIY5_413veIa5X5tg14X-3000e33pZL0612lZL013nZL00bn12rdOodO12tdOqdO32j14W32t4g1X8",
     "3lzOmj8jj813nzOqj8nj813pzOsj8pj813rzOwj8tj813tzOyj8vj813vzO-j8xj813xzOYk8_j813zzOck8Zk813_",
     "zOek8bk813X-Oik8fk813Z-Okk8hk813b-Omk8jk813d-Ook8lk813f-Oqk8nk814h-Omj8Y6lp814j-Oqj8-5lp81",
     "4l-Osj8y5lp814n-Owj8u5lp814p-Oyj8s5lp814r-O-j8q5lp814t-OYk8m5lp814v-Ock8i5lp814x-Oek8g5lp8",
     "14z-Oik8c5lp814_-Okk8a5lp814X_Omk8Y5lp814Z_Ook8W5lp814b_Oqk8-4lp814d_Oek8a6fq817f_Ock8y5v5",
     "o5i4Zu816h_Ock8y5j5u5fq823l_Omzc1jzc113n_Oecd1bcd113p_OY-c1_zc113r_Ochh1Zhh113t_Oucd1rcd11",
     "3v_Ogqe1dqe113x_Oszc1pzc113z_Ocqe1Zqe113__OgZd1dZd113XWPonf1lnf113ZWPWkp1zjp113bWPcau1Zau1",
     "13dWPuWs1rWs113fWPWmp1zlp113hWPowe2lwe213jWPklh1hlh113lWPwxo1txo113nWPaWq1XWq113pWPYkp1_jp",
     "113rWPiny1fny113tWPg-f1d-f113vWPYbv1_av113xWPodc2ldc213zWPgpy1dpy113_WPuef1ref113XXPshd1ph",
     "d113ZXPebg1bbg113bXPypj1vpj113dXPshx1phx113fXPojd1ljd113hXP-fc2xfc213jXPuof1rof113lXPgqy1d",
     "qy113nXPokd1lkd113pXPayW2XyW213rXPsyW2pyW2D3__O8T12zXP112_XP012XYP212ZYP412bYP612dYP812fYP",
     "A12hYPC12jYPE12jYP512lYP312nYP112pYP012rYP212tYP4F2xsGY612vsG-512vsGy512tsGu512tsGs512tsGq",
     "512rsGm512psGi512psGg512nsGc512nsGa512nsGY512nsGW512nsG-415xsGc5i5jBo614XtGa6b6o612btGc6p1",
     "2xdP612zdP812_dPA12XePC12XeP712ZeP512beP312deP112feP012heP212jeP412leP612neP812pePA12peP91",
     "2zePkjp112zePijp112zePgjp112zePejp112zePcjp112zePajp112zePYjp112zePWjp112zeP-ip113lfP1mjp1",
     "13nfP0kjp113pfP2ijp112deP-113lcPQL12ncPT13bePGVm12g-Dmw215xb1w2f3a6d314zb1o4h1d315_b1Y5r1x",
     "3G13Xc1q5X115_b1k2m2d4h113Xc1-4Z313_b16q416zb1Y1Jw4d3z214_b1e5X5Y513zb1o4p313_b1a5t113_b1D",
     "i414Xc1y3h2A14Zc1a45a114bc1Z1e5C14dc1Z1q5f114bc1d1a1Z114dc1d1a3Y314fc1m3Aa116hc1d1a5t2h2c6",
     "12jc1W416lc1W4x3h1W5H16nc1W4Ns1d3c215pc1W44t2A14nc1h1W5H16pc1h1W5Hl1s216rc1u3_2Z2Mo414tc1y",
     "3Uz213rc1s4b413pc1m3X214rc1o4X2X414pc1X1Mu315rc1y3Z3s3t115pc1c3Id4h113jc1m3Z313lc1m3r214fc",
     "1h2c6b413zb1v2y113xb1z2a512zb1s212xb1813rb1LA13rb1r2W216tb1f3a6X4m3r214vb1f3a6l315xb1h3c6V",
     "116tb1l3Gk1Uc214vb1l3g1u313xb1l3o113zb1n3a516vb1d3m4h2Az214xb1Z3o5d316zb1t3q2NVe413_b1e1K1",
     "5xb1n2W1w3X113zb1x3c214_b1x3Y3E13Xc1c1j214Zc1x3o5p315bc1x3a6f4x114dc1z3c6v315Zc1X4K-4r214b",
     "c1Z4a5b212dc1m115fc1X4o5r2z213hc1Y2X113jc1Y2H14fc1p3My313hc1p3k413jc1r1O13lc1Qt315nc1g1t3W",
     "3O14nc1_2y3C12pc1M16rc1Mr1h3c6X113pc1h3Z115rc1h3Z1-2s214tc1s1d3c214pc1m1d3z213rc1m1X113pc1",
     "d4Y514jc1j2Ac212lc1114lc1n1l3a615nc1Y1j2t3a512nc1N16pc1Er2j1l1q513lc1t2A12loPoeu112loPmeu1",
     "12loPkeu112loPieu112loPgeu112loPeeu112loPceu112loPaeu112loPYeu112loPWeu113XpP1oeu113ZpP0me",
     "u113bpP2keu113dpP4ieu113fpP6geu113hpP8eeu113jpPAceu113lpPCaeu113npPEYeu113ppPGWeu113ppP3oe",
     "u113rpP1meu113tpP0keu113vpP2ieu113xpP4geu113nmPl1Y112xmP512ZpPe113ZnP1Y112hmPn112hmPP12bnP",
     "I13dnPIr313fnPIp312XpPO12mlLwv112YhPXw812qwIuZ912WfPwg314sgQrn4f_7eYL12_mPz212bnPv212hyNrt",
     "112hnPt212nnPp212ppPH12npPL12_pP913foP3M14xnPF3M12pnPp212vnPl212_yNht112XzNfr112XoPB12doP7",
     "12lqPa313hoPb2a313fqP9a313tqP2a313_pPNa312nzN_q112noP112bpPG12voP212bpPE12toP112zzNzq112zo",
     "P012ppPK12bpP413ZpP0r313vpPKr312dpPr313jpP4r313hpP0p313XqPKp312lpPp313rpP4p313ppPmwGZwG14r",
     "pPmwGZwGX412nrPY113zpPr1Y113xrP6Y113fsPIY113rpPX1615tpPX16YxGZwG16vpPX16YxGZwGX412_pP612bq",
     "PA12h_Nnq112hqPC12dqPp112jqPl112p_Nhs112pqPj112vqPf112tsPI12pqPn112vqPj112__Nfs112_qPh112b",
     "rPd112ZtPK12frPyp112dtPur114XsPb3-3z312XuP-212XsP012ZsP214buPazGpwG713duPu2X412dsPZ212ZuPa",
     "312ZsPD12buPG12bsPA12ZuP012buP412dsPI12dsP212fsP413hsP6F12jsPO12jsPL13lsP7613nsP4512juPF14",
     "lsPZ4-3z313nuP0512puP412lsP112nuPc212huPM13luP-xGlwG13xvPezGlwG12zwPexo112zwPcxo112zwPaxo1",
     "12zwPYxo112zwPWxo112zwP-wo112zwPywo112zwPwwo112zwPuwo113lxP1gxo113nxP0exo113pxP2cxo113rxP4",
     "axo113txP6Yxo113vxP8Wxo113xxPA-wo113zxPCywo113_xPEwwo113XyPGuwo113XyP3gxo113ZyP1exo113byP0",
     "cxo113dyP2axo113fyP4Yxo113hyP6Wxo113jyP8-wo113lyPAywo113nyPCwwo113pyPEuwo113pyP5gxo113ryP3",
     "exo113lvPBMXun12pfz3012rfz3612tfz3C13vfz30613xfz30C12Zfz3212bfz32D2zvw3412_vw3T12Xww3H12lv",
     "w3F12bww3Du12ztw3Or22ziw3X812_iw3X8B2xjw3x712zjw3x7i12hnw3b5D3_vw3Kv213Xww3Kv213Zww3KY813b",
     "ww3KY813dww3KN13fww3KN13hww3Kc713jww3Kc713lww3Ka713nww3Ka713pww3Ke713rww3Ke713tww3Ku713vww",
     "3Ku713xww3Ku713zww3KL13_ww3KL13Xxw3KL53hxw3Kl213jxw3Kj213lxw3KT13nxw3KL13pxw3KJ12vzw3812xz",
     "w3A12zzw3C12_zw3w112X-w3Y212Z-w3a212X-w3412Z-w3612b-w3812d-w3s112f-w3-112h-w3W212h-w3212j-",
     "w3q112l-w3y112n-w3-112n-w3212p-w3o112p-w3112r-w3m112r-w3312t-w3112v-w3k112n-w3D12p-w3B12r-",
     "w3912t-w3a112r-w3F12t-w3W112t-w3J12v-w3H12x-w3F12z-w3U12z-w3J12_-w3S12_-w3Q12_-w3P12X_w3O1",
     "2X_w3R12Z_w3M12t-w3f112v-w3d112x-w3b112z-w3812_-w3G12X_w3I12X_w3f112Z_w3612b_w3E12d_w3G12d",
     "_w3t112f_w3j112h_w3h112j_w3f112l_w3212n_w3412p_w3C12r_w3E12r_w3l112t_w3j112v_w3h112x_w3212",
     "z_w3A12__w3C12__w3n112XWx3l112ZWx3j112bWx3012dWx3812fWx3A12fWx3p112hWx3n112jWx3l112lWx3112",
     "nWx3612pWx3812pWx3r112rWx3312tWx3412vWx3612rWx3x112tWx3v112vWx3t112xWx3912zWx3112_Wx3012rY",
     "x3W412rYx3-312dXx3k213xZ-3uY3A13zZ-3wY3813_Z-3yY3613Xa-3-Y3413Za-3WZ3213ba-3YZ3-113pXx3Kb2",
     "13rXx3KZ213tXx3KT13vXx3KR13xXx3KL13zXx3KJ12Zax3I12bax3K12dax3w112fax3y112hax3Y212jax3a212h",
     "ax3E12jax3G12lax3s112nax3u112pax3-112rax3W212rax3C12tax3E12vax3q112xax3s112zax3y112_ax3-11",
     "2rZx3G12tZx3I12tZx3E12vZx3G12vZx3t112xZx3212zZx3412_Zx3C12Xax3E12Xax3212Zax3A12bax3C12bax3",
     "x112dax3012dax3f112fax3d112hax3112jax3012lax3612nax3812jax3k212jax3n112lax3l112nax3912pax3",
     "712rax3112tax3013vax3Kl213xax3Kj213zax3Kh213_ax3KT13Xbx3KP12ddx3812fdx3A12hdx3C12jdx3w112l",
     "dx3-112jdx3412ldx3612ndx3812pdx3s112rdx3w112rdx3q112rdx3212tdx3o112tdx3112vdx3m112vdx3312x",
     "dx3k112pdx3D12rdx3B12tdx3912vdx3a112tdx3F12vdx3D12xdx3W112xdx3J12zdx3H12_dx3F12Xex3U12Xex3",
     "J12Xex3Q12Xex3P12Zex3O12Zex3R12bex3M12vdx3f112xdx3d112zdx3b112_dx3812_dx3f112Xex3612Xex3j1",
     "12Zex3h112bex3f112dex3212fex3412fex3l112hex3j112jex3h112lex3212nex3612nex3n112pex3l112rex3",
     "j112tex3012tex3p112vex3n112xex3l112zex3112_ex3212_ex3r112Xfx3312Zfx3o212_ex3x112Xfx3v112Zf",
     "x3t112bfx3912dfx3513ffx3KT13hfx3KP12nhx3w112phx3-112nhx3s112phx3w112phx3q112rhx3u112dhx3a1",
     "12fhx3e112fhx3Y112hhx3c112lgx3212ngx3412ngx3212lgx3112ngx3212hgx3912jgx3513Zhx3S613bhx3U41",
     "3dhx3W1212xhx3a112zhx3c112xhx3W112zhx3Y112zhx3U12_hx3W112lix3i112nix3k112nix3g112pix3i112Z",
     "jx3u112bjx3w112fjx3w112hjx3y112fjx3s112hjx3u112_ix3e112Xjx3g112Xjx3c112Zjx3e112fjx3F12hjx3",
     "D12jjx3B12ljx3Y112njx3512rjx3312pjx3712pjx3912pjx3a112rjx3c112pjx3W112rjx3Y112rjx3U12tjx3W",
     "112dkx3i112fkx3k112fkx3g112hkx3i112xkx3u112zkx3w112Xlx3w112Zlx3y112Xlx3s112Zlx3u112tkx3e11",
     "2vkx3g112vkx3c112xkx3e112Xlx3F12Zlx3D12blx3B12dlx3Y112flx3512jlx3312hlx3712hlx3912nlx3F12p",
     "lx3D12rlx3B12tlx3Y112xlx3e112xlx3c112tlx3S12Xmx3D12Zmx3B12bmx3912bmx3F12dmx3D12fmx3B12bmx3",
     "S12bmx3Q12fnx3e212hnx3e2J3hox34o113jox36113lox36113nox36m113pox38k113rox3s1n113tox3s1l113v",
     "ox3s1j113tox3o1l113vox3o1l113vox3m1A13xox3m1813nox3B113pox3D213rox3Dw113tox3a1l113vox3a1l1",
     "13xox3a1n113zox3a1013_ox3a1013zox3F013_ox3F013Xpx3W1013bpx3Dm113dpx3Dm113fpx3Fy113hpx3Y1j1",
     "13jpx3Y1j113lpx3Y1013npx3Y1013lpx3Hu113npx3Fk113ppx3Fk113ppx3Sl113rpx3Sl113tpx3S013vpx3SA1",
     "3tpx3Po113vpx3O013xpx3O013zpx3O813zpx3M013_px3MA13Xqx3M813rpx3b1k113tpx3b1k113tpx36l113vpx",
     "36013tpx3j1m113vpx3j1w113xpx3j1u113zpx3l1013_px3l1013Xqx3h1k113Zqx3h1k113bqx32l113dqx32l11",
     "3dqx3l1113fqx3l1m113hqx3l1w113jqx3n1213lqx3n1o113nqx3j1313pqx3j1k133vqx3n1413tqx33n113vqx3",
     "3013zqx3n1m113_qx3n1u113Xrx3p1o113Zrx3p1o113brx3p1w113drx31A13frx31813Zrx39013brx39013htx3",
     "Cu113ftx34y113htx34w113jtx38u113ltx38s113ntx3s1A13ptx3s1813ntx3o1A13ptx32u113rtx3o1813ftx3",
     "9s113dtx3Fw113htx3Dw113ftx3Hw113lsx3l1y113nsx32A13dsx3v1w113fsx3x1y113hsx39A13tsx30A13_sx3",
     "6A13vsx3n1w113Ztx36l113Xtx3j1m113vtx3OA13dtx34A13Ztx3p1213dtx3j1u113htx3l1o113ltx34013ltx3",
     "l1o113jtx3p1213Zvx32w113Zvx31y113rtx3n1y113_tx38A13pvx3Aw113_tx34013rux3Po113_ux3W1013bvx3",
     "9u113Xux3p1y1f13rxx3Uy813zwx34y814ryx3w10614tyx3u1r1I14zwx3l1m1h114_xx3ULO14fyx34g1714xxx3",
     "MC514_wx3f1Y1213dyx3UA1Ifyx3UAnY3kW3w106jY3oX3MC5jY3mY3f1Y1218zyx3m1dY3uW3m1v1w1614ryx3s9f",
     "Aw1T3r--300N2ZW_30P2nY_3gk112pY_3gk112rY_3gk112tY_3gk1a12_a_3sY312XZy3M12Zb_3uY322db_3wY32",
     "2hb_3yY312jZy3S12lb_3-Y312nZy3U12pb_3WZ312rZy3W112tb_3YZ312vZy3Y112xb_3aZ312zZy3a122pby3u2",
     "12rby3u212tby3w212vby3w212vZy3O12xZy3O12_by3y212Xcy3y212zZy3K12_Zy3K12Xay3K12Zay3Kf33Xhy3v",
     "1u213Zhy3v1u213bhy3v1w213dhy3v1w213fhy3v1y213hhy3v1y212jhy3v112lhy3v1d72by_3ek1zey12_iu731",
     "2Xju7712Xju7912Xju7B12Xju7D12Xju7F12Xju7H12Xju7J12Xju7L12Xju7N12Xju7P63lku7o1l113nku7q1n11",
     "3pku7s1p113rku7u1r113tku7w1t113vku7y1v113xku7-1x113zku7W2z113_ku7Y2_113Xlu7a2X213Zlu7c2Z21",
     "3blu7e2b213dlu7g2d213flu7i2f213hlu7k2h213jlu7m2j213llu7o2l213nlu7q2n213plu7s2p213rlu7u2r21",
     "3tlu7w2t213vlu7y2v213xlu7-2x213zlu7W3z213_lu7Y3_213Xmu7a3X313hnW7XyNayN32pku7212jju76S2Zmu",
     "7S12xlu7I12nlu7T12plu7013xlu70C12llu7d1R2vnu7J12xnu7H12znu7Aa12tqu7Cm32fuW7_212xqW70I2vqW7",
     "v2j13tYX7mnRjnR13vYX7g_Ed_E13xYX7mdFjdF13zYX7gtLdtL13_YX7ggW1dgW113XZX7-ZPxZP13ZZX7ciZ1ZiZ",
     "113bZX7oiHliH13dZX7cqQZqQ"]

/-- The stretches of marks of one class: how many code points lie before, how many follow the
first, and the class. -/
def classRows : List String :=
  ["WOKc710e713y610e710u614y611g613y611g61Ay614113y612c730c730m710c712y612c711y622c713y610c710",
   "e711y610c710f711g710f711g710f71Cc7q84c7g80y613c710y612c710-610y615c715y611c710y611c710-610",
   "a710c710A10B10C10D10E10F10G10H10I11J10K10L10M20N20O10P20c710y620If27c710U10V10W1n10R10S10T",
   "10U10V10W110X110Y111c711y614c710y611c710y6H0Z1c36c733c710y610c731c720y611c710y6a10a1V0c710",
   "y611c710y611c712y610c711y610c710y612c710y610c710y610c710y610c710y611c7X56c710y610c7A0y6P3c",
   "728c722c724c7i12y6y11c712y613c7h14c714y61Dc720y611c710y611c710y612c712y610R10S10T12c710y61",
   "1c711y614c7z107H0940c710y611c7e307H09n10c7-107H09l307H09l307H09W409l307H0980q210x2c307H09k",
   "319H09z309k31d3109E3h3j31s3109E3w3j21y6S0y620y620u6u10X410Y420a463Y430Y421c710921c7_10y6n3",
   "07219p20y6mM2c7rT19V09-409B0c7i60a7m40-610c710y6y60c710y6e209L7c730y6n14c715y611c710y621y6",
   "11c711y614c710y61Hc710y635c710y613c710g7f207G09d10c710y616c7t119x107C19a207v42c720114y611c",
   "713y610c726150y670c741c7d61c710y616c710y611c710g710s610y610g61a1c710e711a710y610w610c710f7",
   "10y610c710y6nM1c711113c712111c750c741110c710y610c711113y610c7__22c7k409X3Vc7hH0w610a710e71",
   "0-611W7g318rkT0c759c7X11c7n21c7r809c109u409SHc7w12y6c109W307D09m70c721c710y631c761c720c7r1",
   "09t709nvJ0QYO6c716y611c7kU0y6Z70y6s44c7pq10y620c7f10c710110y6509c50c710y6-H3c7Y24c7-91c7k2",
   "1y622y6d21y612c710y610c713y6o10c710y610c710y6X609g109F09w109107c22c7n119_107j209A07h309107",
   "p507109n217H09P6c744c7w229o309407O0c7a309107y709107_309t309107q309k809107Z819507z409q209J0",
   "9o209cD09Z807219o209gD19jlG09Xk241y16c7wb116jbJ01dc51u612140Y714u697y634c711y6V3c7r42c7yj3",
   "6c72Gc736c721c724c7b30c7X56c7uB0c7-13c7zF1e710y610c7_70c710y6q70c730c781c760c7xE6y6k35c710",
   "7"]

/-- The code points of two parts: how far the first part lies from the one before, the second part,
and how far the code point lies from its first part. -/
def pairRows : List String :=
  ["y1uPaZH1uPcYH1uPYZH3WO-70XOW80YOY80ZOa80aO-B0cOYC0dOgU0eOc80fOYcF0gOe80iOuO0lO-R0nOYS0ZP-b",
   "F0bP-xE0ePcC1dOWyE0ZPayE0nPeyE1XOcC0YOgC0dOkC0iOoC0dPe81dOiyE0iOqC0ZPmyE0dPuyE0jPyyE0nPqyE",
   "1WOc80XOe80YOg80ZOkdF0aOwC0cO-C0dOYD0eOi80fOgdF0iOgD0lO-R0nOYS0ZPcdF0dPcU0ePcD0jPczE0mPgzE",
   "1dOmzE1XOwQ0YOgD0aOozE0cOkD0dOoD0iO-P0dPsD1YOuD0dOqzE0eOyzE0iOiT0ZPuzE0dPW-E0kPa-E1WOc80XO",
   "e80YOg80ZO-D0aOYE0cOcE0dOkE0eOi80fO-dF0iOiO0lO-R0nOYS0ZPYeF0ePgE0mPc-E1YOqE1XOg-E0iOwP0ZPk",
   "-E0dPsE0nPo-E1XOwE0iOYF0ZPq-E0dP-E0jPW_E0nPy-E1XOY_E0dOc_E0ZPg_E1WOqQ0XOgF0ZOc80dOi_E0iOoF",
   "0ZPm_E0dPkF0jPu_E0nPq_E1WOc80XOe80YOg80ZOi80aOwF0cO-F0dO-T0eOk80fO-dF0hOYG0iOaO0lOwR0nO-R0",
   "xOYL0ZPwdF0ePsP1XOeWF0dOiWF2XOaG0dOiWF0iOiG0lOyR0nOWS0ZPmWF0dPeG0nPuWF1XOkG0YOoG0dOwWF0iOw",
   "G0ZP-WF0cPgS0dPsG1dOiXF0iOWH0ZPmXF0cPiS0dPyG0jPuXF0nPqXF1WOe80XOg80YOi80ZOcH0aOgH0cOkH0eOk",
   "80fOYfF0gOoH0hOsH0iOyN0lO-R0nOYS0xOqL0ZP-eF0aPwXF0ePwH0jPYYF0mP-XF1ZOiYF0ZPmYF1WOoYF0XOsYF",
   "0YOwH0dO-YF0eOwYF0ZPYZF1dOaZF0eOeZF1WOofF0XOe80YOwH0ZO-fF0aOoT0dOgZF0eO-H0fOwfF0ZPsfF1XO-H",
   "0YOiZF0dOYI0iOcI0ZPmZF0nPqZF7WO-70XOW80YOY80ZOa80aOWA0cOaA0dOiS0eOc80fOaaF0gOe80iOwM0lOWQ0",
   "nOaQ0ZPWaF0bPWwE0ePeA1dOYwE0ZPcwE0nPgwE1XOeA0YOiA0dOmA0iOqA0dPe81dOkwE0iOsA0ZPowE0dPwwE0jP",
   "-wE0nPswE1WOc80XOe80YOg80ZOmbF0aOyA0cOWB0dOaB0eOi80fOibF0iOiB0lOWQ0nOaQ0ZPebF0dPeS0ePeB0jP",
   "exE0mPixE1dOoxE1XOyO0YOiB0aOqxE0cOmB0dOqB0iOWO0dPuB1YOwB0dOsxE0eO-xE0iOkR0ZPwxE0dPYyE0kPcy",
   "E0nPyYF1WOc80XOe80YOg80ZOWC0aOaC0cOeC0eOi80fOWcF0iOkM0lOWQ0nOaQ0ZPacF0ePiC0mPeyE1YOsC0iOiO",
   "1XOiyE0iOyN0ZPmyE0dPuC0nPqyE1XOyC0iOaD0ZPsyE0dPWD0jPYzE0nP-yE1XOazE0dOezE0ZPizE1WOsO0XOiD0",
   "ZOc80dOkzE0iOqD0ZPozE0dPmD0jPwzE0nPszE1WOc80XOe80YOg80ZOi80aOyD0cOWE0dOWS0eOk80fOWcF0hOaE0",
   "iOcM0lOyP0nOWQ0xOaJ0ZPybF0ePuN1XOg-E0dOk-E2XOcE0dOk-E0iOkE0lO-P0nOYQ0ZPo-E0dPgE0nPw-E1XOmE",
   "0YOqE0dOy-E0iOyE0ZPW_E0cPiQ0dPuE1dOk_E0eOcYF0iOYF0ZPo_E0cPkQ0dP-E0jPw_E0nPs_E1WOe80XOg80YO",
   "i80ZOeF0aOiF0cOmF0eOk80fOadF0gOqF0hOuF0iO-L0lOWQ0nOaQ0xOsJ0ZPWdF0aPy_E0ePyF0jPaWF0mPWWF1ZO",
   "kWF0ZPoWF1WOqWF0XOuWF0YOyF0dOWXF0eOyWF0gOYYF0ZPaXF1dOcXF0eOgXF1WOqdF0XOe80YOyF0ZOWeF0aOqR0",
   "dOiXF0eOi80fOydF0gOWYF0ZPudF1XOWG0YOkXF0dOaG0iOeG0ZPoXF0nPsXFk1WOgqF0XOwj10YQonFQWOe-E0XOa",
   "-E0ZOm-E0fOi-E2aOqH1XOgJ1XOiJ0aOuH1XOYqE3WOi_E0XOe_E0ZOq_E0fOm_E5XO-rE5WOy_E0XOu_E0ZOaWF0f",
   "OWWF1XOktE0aOkL0eOotE1aOeL2XOiI4WO-F0XOsF0aOoF0iOwF6WOgyE0XOcyE0ZOoyE0fOkyE2aOsF1XOiH1XOkH",
   "0aOwF1XOaoE3WOkzE0XOgzE0ZOszE0fOozE5XOWqE5WO-zE0XOwzE0ZOc-E0fOY-E1XOmrE0aOmJ0eOqrE1aOgJ2XO",
   "kG4WOWE0XOuD0aOqD0iOyD6WOywE0XOuwE0ZOaxE0fOWxE1WOywE0XOuwE0ZOaxE0fOWxEFWOamE0XOemE1WOamE0X",
   "OemEv1WOemE0XOimE1WOemE0XOimEDdOqmE1dOqmE5dOimE1dOimE7XOWnE1XOWnE1eOWnE1eOWnEKdOunEX1WOupE",
   "0XOqpE0ZOWqE0fOypE0ZPaqE1WOupE0XOqpE0ZOWqE0fOypE0ZPaqEEWOspE0XOopE0ZO-pE0fOwpE0ZPYqE1WOspE",
   "0XOopE0ZO-pE0fOwpE0ZPYqE7iOk3p1aO41aO4x1aOh41aOh41cOe_D1cOe_D5aO41aO4Z3iObA_7WOoYE0XOL0aOm",
   "YE0cOkYE0pOktD0qOmtD0bQsYE4WOcZE0XOP0pOcuD0qOeuD2WOcZE0XOR0pOYvD0qOavD0bQgZE2WOYaE0XOT0aOW",
   "aE0cO-ZE0eOY10pO-vD0qOWwD6WOobE0XOb10pOowD0qOqwD2qOsaE4WOgaE0XOj10aOeaE0cOcaE0eOC0qOexD4WO",
   "YbE0XOp10pO-xD0qOWyD0bQcbE3bQmWE2bQiXE3WO-xD0XO90aOWWE0cO-_D0pO-qD0qOWrD0YQgWE0bQaWE4WOwxD",
   "0XOF0pOsrD0qOurD2WOwxD0XOH0pOosD0qOqsD0YQ-WE0bQuWE2WOwxD0XOJ0aOmXE0cOkXE0eOY10pOktD0qOmtD0",
   "YQwXE6WOoxD0XOQ0pOYuD0qOauD2pOcYE0qOeYE4WOgxD0XOG0aOuXE0cOsXE0eOC0pOsuD0qOuuD0YQYYE4WOcxD0",
   "XOA0pOkvD0qOmvD0YQwYE0bQqYE1WOmWE0XOp30YQwWE1WOkXE0XOr10YQuXE3bQiYE4XO20eO4q1eO2AcOWC0eOaC",
   "3XOV2WOf10cOYC0eOd11cOsA0eOiC1eOkC1WOL0aOqC0cO20eOuC2XOR4eOmC5aOsC0cOf10eOwC0hO-C4eOwC4eOw",
   "C2eO-B3cOYA0eOcA3XOW22WOs10cOaA0eOu11cOu80eOkA1eOmA1WOg20aOsA0cO20eOwA2XOa24eOoA5aOuA0cOs1",
   "0eOyA0hOWB4eOyA4eOyA2eOWA9eO2UlO41lO4Z3eO41eO4FeO41eO4-9po190qo170ro13X1qo1d22qo1d2t3qo12H",
   "qo123qo1f1pIyf228yf223yf22q4-j280tk2AWC-v280sw220tw2Ah2t-24q1-z280t-2C1-z28_3sY34v3rc327Yc",
   "380rc320sc344rc32y3-f380tg3C1-f38o4gk320lk360_k3A3gk32fIkX42Wt2rv622rv622rv622rv622rv624rv",
   "62f1rv622rv622rv641rv643rv62qNaO41aO4Z1aO41aO47dOC1dOCz1YOO0cOi11YOO0cOi1NYOS1YOSJYOO1YOOp",
   "1WO40XO80YQC0bQW81WO40XO80YQC0bQW81bQW81bQW81bQW81bQW81bQW81bQW81WO40XO80YQC0bQW81WO40XO80",
   "YQC0bQW81bQW81bQW81bQW81bQW81bQW81bQW81WO40XO81WO40XO87WO40XO81WO40XO87WO40XO80YQC0bQW71WO",
   "40XO80YQC0bQW71bQW71bQW71bQW71bQW71bQW71bQW71WO40XO80YQC0bQW71WO40XO80YQC0bQW71bQW71bQW71b",
   "QW71bQW71bQW71bQW71WO40XO80YQC1WO40XO80YQC7WO40XO80YQC1WO40XO80YQC7WO40XO81WO40XO87WO40XO8",
   "1WO40XO87WO40XO80YQC1WO40XO80YQC8WO40XO80YQC7WO40XO80YQC0bQW41WO40XO80YQC0bQW41bQW41bQW41b",
   "QW41bQW41bQW41bQW41WO40XO80YQC0bQW41WO40XO80YQC0bQW41bQW41bQW41bQW41bQW41bQW41bQW41bQa44bQ",
   "y48bQi7w1bQ29WOS0XOU0YQW17bQ2m1bQ28WOX20XO_10YQz1oCuPK2uPI2uPq1y1uP52uP52uPBl1uP25uP23uP2O",
   "uP22uP2NuPA7uP22uP43uP25uPW2KuP23uPO1uPODuP41uP43uP41uP43uPC1uPC1uPe61uPe65uP41uP43uP41uP4",
   "AuPY51uPY5GuPK6uPA1uPA2uP87uPm31uPm31uPm31uPm3ni3vaCy45vaC22vaC22vaC22vaC22vaC22vaC22vaC22",
   "vaC22vaC22vaC22vaC22vaC23vaC22vaC22vaC27vaC20waC43vaC20waC43vaC20waC43vaC20waC43vaC20waC4Y",
   "1vaC29vaCy45vaC22vaC22vaC22vaC22vaC22vaC22vaC22vaC22vaC22vaC22vaC22vaC23vaC22vaC22vaC27vaC",
   "20waC43vaC20waC43vaC20waC43vaC20waC43vaC20waC4KvaCG1vaCG1vaCG1vaCGBvaC2rcr1dOH8dOK_r2wba22",
   "2wba22Awba2Ci4dfa251dfa25rG-va280twa2Ax1f-a222xza227Y-a265f-a22o1uza2A0Y-a260f-a2Ct7mbb260",
   "wbb240zbb2A_7ljb241ljb24yRmfc26f_H-eu260_eu2A0Wfu2E0ffu283_eu2A0Wfu2E1_eu2A7_eu29wX3dhx2C4",
   "dhx222dhx22"]

end CollectionRunner.Unicode.Decomposition
